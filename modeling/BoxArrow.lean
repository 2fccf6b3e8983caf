import BoxArrow.Main
import BoxArrow.Proofs.Anchor
import BoxArrow.Proofs.Arguments
import BoxArrow.Proofs.Canvas
import BoxArrow.Proofs.Component.Catalog
import BoxArrow.Proofs.Component.Display
import BoxArrow.Proofs.Document.Concatenation
import BoxArrow.Proofs.Document.Slices
import BoxArrow.Proofs.Grammar.Blocks
import BoxArrow.Proofs.Grammar.ClosingBrace
import BoxArrow.Proofs.Grammar.Tree
import BoxArrow.Proofs.Item.Parts
import BoxArrow.Proofs.Item.Quoted
import BoxArrow.Proofs.Item.Separators
import BoxArrow.Proofs.Layout.Findings
import BoxArrow.Proofs.Layout.Geometry
import BoxArrow.Proofs.Layout.Moves
import BoxArrow.Proofs.Layout.Offers
import BoxArrow.Proofs.Layout.Polyline
import BoxArrow.Proofs.Layout.StatementOrder
import BoxArrow.Proofs.Layout.Unmentioned
import BoxArrow.Proofs.Relocation.Plan
import BoxArrow.Proofs.Token.Gaps
import BoxArrow.Proofs.Token.Splitting
