import BoxArrow.Anchor
import BoxArrow.Proofs.Layout.Extent
import BoxArrow.Proofs.Text.Split

/-!
# What the text of an anchor names

The text of an anchor is compared without the blanks around it and without regard to the case of
ASCII letters. A few words name the center or a single direction. Any other text is read letter by
letter, however long it is: on each axis the last letter chooses the side, and the first letter of
all chooses the edge. One letter that is no compass letter makes it the center, whatever was read
before.

## Main definitions

* `Text.SameWord` — texts that differ in case and in the blanks around them
* `Compass.lastOf`, `Compass.axisOf` — the side that the last letter chooses, and the axis of a
  letter
* `Compass.Names` — what a text names
* `Anchor.IsCornerPlace` — a place on the edge of a box, a quarter of the way from one of its ends

## Main results

* `Compass.names_iff` — a text names what is read from it
* `Anchor.ofText_names` — the anchor of a text, and its places on boxes
-/

namespace BoxArrow

/-! ### Blanks and case -/

namespace Text

/-- Texts that differ at most in the case of ASCII letters and in the blanks around them. -/
inductive SameWord : String → String → Prop
  | mk {front core back front' core' back' : List Char} : IsBlanks front → IsBlanks back →
      IsBlanks front' → IsBlanks back' → core.map Char.toLower = core'.map Char.toLower →
      SameWord (.ofList (front ++ core ++ back)) (.ofList (front' ++ core' ++ back'))

/-- None of the characters from `A` to `z` is a blank. -/
theorem isBlank_eq_false {c : Char} (hfirst : 65 ≤ c.toNat) (hlast : c.toNat ≤ 122) :
    isBlank c = false := by
  simp only [isBlank, Bool.or_eq_false_iff, Bool.and_eq_false_iff, decide_eq_false_iff_not,
    beq_eq_false_iff_ne]
  omega

theorem isBlank_toLower (c : Char) : isBlank c.toLower = isBlank c := by
  unfold Char.toLower
  split
  · rename_i hupper
    have hfirst : 65 ≤ c.toNat := UInt32.le_iff_toNat_le.1 hupper.1
    have hlast : c.toNat ≤ 90 := UInt32.le_iff_toNat_le.1 hupper.2
    have hlower : (c.val + ('a'.val - 'A'.val)).toNat = c.toNat + 32 := by
      rw [UInt32.toNat_add]
      exact Nat.mod_eq_of_lt (show c.toNat + 32 < 2 ^ 32 by omega)
    rw [isBlank_eq_false hfirst (by omega)]
    apply isBlank_eq_false <;> rw [Char.toNat, hlower] <;> omega
  · rfl

theorem trim_map_toLower (text : List Char) :
    trim (text.map Char.toLower) = (trim text).map Char.toLower := by
  have hblank : isBlank ∘ Char.toLower = isBlank := funext isBlank_toLower
  rw [trim, trimRight, trimLeft, List.dropWhile_map, hblank, ← List.map_reverse,
    List.dropWhile_map, hblank, ← List.map_reverse]
  rfl

theorem SameWord.asciiLower_trim_eq {a b : String} (h : SameWord a b) :
    asciiLower (trim a.toList) = asciiLower (trim b.toList) := by
  obtain ⟨hfront, hback, hfront', hback', hcore⟩ := h
  rw [String.toList_ofList, String.toList_ofList, trim_append_right hback, trim_append_left hfront,
    trim_append_right hback', trim_append_left hfront', asciiLower, asciiLower,
    ← trim_map_toLower, ← trim_map_toLower, hcore]

end Text

/-! ### Letters -/

namespace Compass

/-- The side that the last of two letters in a text chooses: the one the near side, the other the
far side. If neither occurs, it is the middle. -/
def lastOf (near far : Char) (text : List Char) : Side :=
  match (text.filter fun c => c = near ∨ c = far).getLast? with
  | none => .middle
  | some c => if c = near then .near else .far

/-- The axis of a compass letter. -/
def axisOf (c : Char) : Axis := if c = 'n' ∨ c = 's' then .vertical else .horizontal

/-- The compass letters. -/
def letters : List Char := ['n', 's', 'e', 'w']

/-- The words that name the center or a single direction. -/
def words : List String :=
  ["", "c", "center"] ++ ["north", "top"] ++ ["south", "bottom"] ++ ["east", "right"] ++
    ["west", "left"]

/-- What a trimmed lowercase text names. -/
inductive Names : String → Compass → Prop
  | center {text : String} : text ∈ ["", "c", "center"] → Names text ⟨.middle, .middle, none⟩
  | north {text : String} : text ∈ ["north", "top"] → Names text ⟨.middle, .near, some .vertical⟩
  | south {text : String} : text ∈ ["south", "bottom"] → Names text ⟨.middle, .far, some .vertical⟩
  | east {text : String} : text ∈ ["east", "right"] → Names text ⟨.far, .middle, some .horizontal⟩
  | west {text : String} : text ∈ ["west", "left"] → Names text ⟨.near, .middle, some .horizontal⟩
  | letters {text : String} : text ∉ words → (∀ c ∈ text.toList, c ∈ letters) →
      Names text ⟨lastOf 'w' 'e' text.toList, lastOf 'n' 's' text.toList,
        text.toList.head?.map axisOf⟩
  | other {text : String} : text ∉ words → (∃ c ∈ text.toList, c ∉ letters) →
      Names text ⟨.middle, .middle, none⟩

variable {c : Char} {text : List Char}

theorem lastOf_concat (near far : Char) (text : List Char) (c : Char) :
    lastOf near far (text ++ [c]) =
      if c = near then .near else if c = far then .far else lastOf near far text := by
  unfold lastOf
  rw [List.filter_append]
  by_cases hnear : c = near
  · simp [hnear]
  · by_cases hfar : c = far <;> simp [hnear, hfar]

theorem letter?_eq_none_iff : letter? c = none ↔ c ∉ letters := by
  unfold letter? letters
  split <;> simp_all

/-- A letter replaces the side on its axis, and leaves the primary axis if there is one. -/
theorem turn_letter {move : Axis × Side} (h : letter? c = some move) (compass : Compass) :
    compass.turn move =
      ⟨if c = 'w' then .near else if c = 'e' then .far else compass.horizontal,
        if c = 'n' then .near else if c = 's' then .far else compass.vertical,
        some (compass.primary.getD (axisOf c))⟩ := by
  unfold letter? at h
  split at h <;> cases h <;> rfl

theorem read?_concat (compass : Compass) (text : List Char) (c : Char) :
    compass.read? (text ++ [c]) =
      (compass.read? text).bind fun compass => (letter? c).map compass.turn := by
  induction text generalizing compass with
  | nil => cases h : letter? c <;> simp [read?, h]
  | cons d text ih => cases h : letter? d <;> simp [read?, h, ih]

/-- A text of compass letters is told by the last one of each axis and by the first one. -/
theorem read?_center (h : ∀ c ∈ text, c ∈ letters) :
    center.read? text =
      some ⟨lastOf 'w' 'e' text, lastOf 'n' 's' text, text.head?.map axisOf⟩ := by
  induction text using List.reverseRecOn with
  | nil => rfl
  | append_singleton text c ih =>
    have hc : c ∈ letters := h c (by simp)
    obtain ⟨move, hmove⟩ := Option.ne_none_iff_exists'.1 fun hnone =>
      letter?_eq_none_iff.1 hnone hc
    rw [read?_concat, ih fun d hd => h d (List.mem_append_left _ hd), Option.bind_some, hmove,
      Option.map_some, turn_letter hmove, lastOf_concat, lastOf_concat, List.head?_append]
    cases text.head? <;> rfl

theorem read?_eq_none (compass : Compass) (h : ∃ c ∈ text, c ∉ letters) :
    compass.read? text = none := by
  induction text generalizing compass with
  | nil => simp at h
  | cons d text ih =>
    cases hmove : letter? d with
    | none => simp [read?, hmove]
    | some move =>
      -- The bad letter stands further behind.
      have hd : d ∈ letters := by
        by_contra hd
        cases hmove.symm.trans (letter?_eq_none_iff.2 hd)
      obtain ⟨c, hc, hbad⟩ := h
      rcases List.mem_cons.1 hc with rfl | hc
      · exact absurd hd hbad
      · rw [read?, hmove]
        exact ih _ ⟨c, hc, hbad⟩

/-- A text that is none of the words is read by its letters. -/
theorem ofText_of_notMem {text : String} (h : text ∉ words) :
    ofText text = (center.read? text.toList).getD center := by
  unfold ofText
  split <;> first | rfl | exact absurd (by decide) h

theorem exists_names (text : String) : ∃ compass, Names text compass := by
  by_cases hword : text ∈ words
  · simp only [words, List.mem_append] at hword
    rcases hword with (((h | h) | h) | h) | h
    exacts [⟨_, .center h⟩, ⟨_, .north h⟩, ⟨_, .south h⟩, ⟨_, .east h⟩, ⟨_, .west h⟩]
  · by_cases hletters : ∀ c ∈ text.toList, c ∈ letters
    · exact ⟨_, .letters hword hletters⟩
    · push Not at hletters
      exact ⟨_, .other hword hletters⟩

theorem Names.ofText_eq {text : String} {compass : Compass} (h : Names text compass) :
    ofText text = compass := by
  cases h with
  | center h =>
    simp only [List.mem_cons, List.not_mem_nil, or_false] at h
    rcases h with rfl | rfl | rfl <;> rfl
  | north h | south h | east h | west h =>
    simp only [List.mem_cons, List.not_mem_nil, or_false] at h
    rcases h with rfl | rfl <;> rfl
  | letters hword hletters => rw [ofText_of_notMem hword, read?_center hletters, Option.getD_some]
  | other hword hother =>
    rw [ofText_of_notMem hword, read?_eq_none Compass.center hother]
    rfl

/-- A text names what is read from it. -/
theorem names_iff {text : String} {compass : Compass} :
    Names text compass ↔ ofText text = compass := by
  refine ⟨Names.ofText_eq, ?_⟩
  rintro rfl
  obtain ⟨compass, h⟩ := exists_names text
  rwa [h.ofText_eq]

/-- A compass with sides on both axes has been read from letters, the first of which tells its
primary axis. -/
theorem Names.exists_primary {text : String} {compass : Compass} (h : Names text compass)
    (hhorizontal : compass.horizontal ≠ .middle) (hvertical : compass.vertical ≠ .middle) :
    ∃ axis, compass.primary = some axis := by
  cases h with
  | center | north | south | other => exact absurd rfl hhorizontal
  | east | west => exact absurd rfl hvertical
  | letters =>
    cases hfirst : text.toList with
    | nil => simp [hfirst, lastOf] at hhorizontal
    | cons c rest => exact ⟨axisOf c, rfl⟩

end Compass

/-! ### Places -/

/-- The other axis. -/
def Axis.other : Axis → Axis
  | horizontal => vertical
  | vertical => horizontal

/-- The coordinate of a point on an axis. -/
def Point.on (p : Point) : Axis → Float32
  | .horizontal => p.x
  | .vertical => p.y

namespace Anchor

/-- A place on an edge of a box, which the side on the axis tells. It lies a quarter of the way
along the edge, from the end that the other side tells. -/
structure IsCornerPlace (anchor : Anchor) (axis : Axis) (b : Box) (p : Point) : Prop where
  near : anchor.side axis = .near → p.on axis = b.start axis
  far : anchor.side axis = .far → p.on axis = b.stop axis
  first : anchor.side axis.other = .near →
    p.on axis.other = b.start axis.other + b.extent axis.other * 0.25
  last : anchor.side axis.other = .far →
    p.on axis.other = b.start axis.other + b.extent axis.other * 0.75

theorem toCompass_ofText (text : String) :
    (ofText text).toCompass = Compass.ofText (Text.asciiLower (Text.trim text.toList)) := by
  rw [ofText]

theorem text_ofText (text : String) : (ofText text).text = text := by
  rw [ofText]

/-- What is written has no part in the place. -/
theorem placeOn_congr {anchor anchor' : Anchor} (h : anchor.toCompass = anchor'.toCompass)
    (b : Box) : anchor.placeOn b = anchor'.placeOn b := by
  obtain ⟨compass, text⟩ := anchor
  obtain ⟨compass', text'⟩ := anchor'
  cases h
  rfl

theorem isCornerPlace_placeOn {anchor : Anchor} {axis : Axis} (hcorner : anchor.isCorner = true)
    (hprimary : anchor.primary = some axis) (b : Box) :
    anchor.IsCornerPlace axis b (anchor.placeOn b) := by
  cases axis with
  | horizontal =>
    have hplace : anchor.placeOn b = ⟨edge b.left b.center.x b.right anchor.horizontal,
        b.top + b.height * fraction anchor.vertical⟩ := by
      rw [placeOn, if_pos hcorner, hprimary]
      rfl
    rw [hplace]
    exact ⟨congrArg (edge b.left b.center.x b.right), congrArg (edge b.left b.center.x b.right),
      congrArg (b.top + b.height * fraction ·), congrArg (b.top + b.height * fraction ·)⟩
  | vertical =>
    have hplace : anchor.placeOn b = ⟨b.left + b.width * fraction anchor.horizontal,
        edge b.top b.center.y b.bottom anchor.vertical⟩ := by
      rw [placeOn, if_pos hcorner, hprimary]
      rfl
    rw [hplace]
    exact ⟨congrArg (edge b.top b.center.y b.bottom), congrArg (edge b.top b.center.y b.bottom),
      congrArg (b.left + b.width * fraction ·), congrArg (b.left + b.width * fraction ·)⟩

/-- A text names the sides and the primary axis of its anchor, which keeps the text as it is
written. Texts that differ in case and blanks alone have their places in common, and a corner has
its place on the edge that the first letter tells. -/
theorem ofText_names (text : String) :
    (∀ compass, Compass.Names (Text.asciiLower (Text.trim text.toList)) compass ↔
      (ofText text).toCompass = compass) ∧
    (ofText text).text = text ∧
    (∀ text', Text.SameWord text text' → ∀ b, (ofText text').placeOn b = (ofText text).placeOn b) ∧
    ((ofText text).isCorner = true → ∃ axis, (ofText text).primary = some axis ∧
      ∀ b, (ofText text).IsCornerPlace axis b ((ofText text).placeOn b)) := by
  have hnames (compass : Compass) : Compass.Names (Text.asciiLower (Text.trim text.toList))
      compass ↔ (ofText text).toCompass = compass := by
    rw [toCompass_ofText]
    exact Compass.names_iff
  refine ⟨hnames, text_ofText text, fun text' hsame b => ?_, fun hcorner => ?_⟩
  · apply placeOn_congr
    rw [toCompass_ofText, toCompass_ofText, hsame.asciiLower_trim_eq]
  · obtain ⟨hhorizontal, hvertical⟩ := Bool.and_eq_true_iff.1 hcorner
    obtain ⟨axis, hprimary⟩ := ((hnames _).2 rfl).exists_primary (of_decide_eq_true hhorizontal)
      (of_decide_eq_true hvertical)
    exact ⟨axis, hprimary, isCornerPlace_placeOn hcorner hprimary⟩

/-- The last letters of both axes choose the sides, and the first letter the edge. -/
example : (ofText " NnEswE ").toCompass = ⟨.far, .far, some .vertical⟩ := by decide +kernel

end Anchor

end BoxArrow
