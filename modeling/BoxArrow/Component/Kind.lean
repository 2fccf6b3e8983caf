import BoxArrow.Component.Display
import BoxArrow.Plane

/-!
# Component types

## Main definitions

* `ComponentType` — a tag with a default size, display properties, and whether there may be a body
* `ComponentType.rectangle`, `ComponentType.builtIn` — the types that are always there
-/

namespace BoxArrow

/-- A type that a declaration may name after its colon. -/
structure ComponentType where
  tag : String
  /-- The size of a component whose block sets none. -/
  size : Size
  /-- Whether a declaration of the type may have a body. -/
  canContain : Bool
  fields : List DisplayField
  deriving Repr, Inhabited

namespace ComponentType

/-- The display properties of a component in which no value is set. -/
def fresh (type : ComponentType) : DisplayRecord := .fresh type.fields

/-- A text property without a default. -/
def plainText (key : String) : DisplayField := ⟨key, .text, none⟩

/-- A text property with a default. -/
def text (key value : String) : DisplayField := ⟨key, .text, some value⟩

/-- An integer property with a default. -/
def integer (key value : String) : DisplayField := ⟨key, .integer, some value⟩

/-- The colors of the background and of the text, with their defaults. -/
def colors (background foreground : String) : List DisplayField :=
  [⟨"bg", .color, some background⟩, ⟨"fg", .color, some foreground⟩]

/-- A color property with a default. -/
def color (key value : String) : DisplayField := ⟨key, .color, some value⟩

/-- A browser window. -/
def browser : ComponentType where
  tag := "Browser"
  size := ⟨640, 420⟩
  canContain := true
  fields := plainText "url" :: colors "#e6f3ff" "#333333" ++
    [color "contentBg" "#ffffff", plainText "text"]

/-- The frame of a virtual machine. -/
def machine : ComponentType where
  tag := "VM"
  size := ⟨640, 420⟩
  canContain := true
  fields := plainText "title" :: colors "#e6f3ff" "#333333" ++
    [color "contentBg" "#ccc", plainText "text"]

/-- A server box. -/
def server : ComponentType where
  tag := "Server"
  size := ⟨200, 50⟩
  canContain := false
  fields := [plainText "title", text "icon" "default", integer "port" "80"] ++
    colors "#e6f3ff" "#333333"

/-- A terminal window. -/
def terminal : ComponentType where
  tag := "Terminal"
  size := ⟨320, 200⟩
  canContain := false
  fields := [text "title" "Terminal", text "cwd" "~/project", text "command" "go run main.go",
    text "prompt" "$"] ++ colors "#0f172a" "#f8fafc" ++ [color "accent" "#38bdf8"]

/-- A database. -/
def database : ComponentType where
  tag := "Database"
  size := ⟨160, 120⟩
  canContain := false
  fields := [text "title" "Database", text "engine" "PostgreSQL"] ++
    colors "#0f766e" "#ecfdf5" ++ [color "accent" "#14b8a6"]

/-- A message queue, whose kind names the broker. -/
def queue : ComponentType where
  tag := "MessageQueue"
  size := ⟨200, 80⟩
  canContain := false
  fields := [text "title" "Queue", text "kind" "RabbitMQ"] ++
    colors "#4c1d95" "#ede9fe" ++ [color "accent" "#a855f7"]

/-- An edge network. -/
def edgeNetwork : ComponentType where
  tag := "CDN"
  size := ⟨200, 80⟩
  canContain := false
  fields := [text "title" "Edge", text "provider" "Cloudflare", text "region" "Global"] ++
    colors "#1d4ed8" "#eff6ff" ++ [color "accent" "#60a5fa"]

/-- A gateway in front of an interface. -/
def gateway : ComponentType where
  tag := "APIGateway"
  size := ⟨200, 80⟩
  canContain := false
  fields := [text "title" "API Gateway", text "route" "/api", text "method" "ANY"] ++
    colors "#312e81" "#eef2ff" ++ [color "accent" "#6366f1"]

/-- A scheduled background job. -/
def worker : ComponentType where
  tag := "BackgroundWorker"
  size := ⟨200, 80⟩
  canContain := false
  fields := [text "title" "Worker", text "job" "process-emails", text "schedule" "@every 1m"] ++
    colors "#166534" "#dcfce7" ++ [color "accent" "#22c55e"]

/-- A package of a programming language. -/
def package : ComponentType where
  tag := "Package"
  size := ⟨160, 100⟩
  canContain := false
  fields := [text "title" "Package", text "version" "1.0.0", text "lang" "Go"] ++
    colors "#92400e" "#fef3c7" ++ [color "accent" "#f97316"]

/-- A build artifact. Its property `size` is a text and no extent on the canvas. -/
def artifact : ComponentType where
  tag := "Artifact"
  size := ⟨160, 100⟩
  canContain := false
  fields := [text "title" "Artifact", text "filename" "build.tar.gz", text "size" "24 MB"] ++
    colors "#1f2937" "#f9fafb" ++ [color "accent" "#9ca3af"]

/-- The plain rectangle, for declarations without a type or with an unknown one. -/
def rectangle : ComponentType where
  tag := "Rectangle"
  size := ⟨120, 60⟩
  canContain := false
  fields := plainText "title" :: colors "#e6f3ff" "#333333"

/-- The types that are always there. -/
def builtIn : List ComponentType :=
  [browser, machine, server, terminal, database, queue, edgeNetwork, gateway, worker, package,
    artifact, rectangle]

end ComponentType

end BoxArrow
