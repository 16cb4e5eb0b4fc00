import X86Decoder.Source.BuildConstraint
import X86Decoder.Text.Layout

/-!
# Constraints at the top of a file

Comments that state build constraints are moved to the top of a laid out file, after the comments
there. They are made anew from the constraint that they state together.
-/

namespace X86Decoder.Source.ConstraintBlock

/-! ### Lines of a layout -/

/-- The items up to the end of the first line. -/
def firstLine (items : Text.Layout) : Text.Layout :=
  items.take ((items.takeWhile fun item => !Text.Layout.isBreak item).length + 1)

/-- The text of the comment at the start of some items, up to the end of its line. -/
def comment (items : Text.Layout) : String :=
  String.ofList (((items.dropWhile (· == .guard)).takeWhile fun item =>
    item != .guard && !Text.Layout.isBreak item).filterMap fun
      | .char c => some c
      | .guard => none)

/-- Whether a comment that goes to the end of the line stands first. -/
def startsComment : Text.Layout → Bool
  | .guard :: .char '/' :: .char '/' :: _ :: _ => true
  | _ => false

/-- Whether the items end with an empty line. They are given in reverse. -/
def endsEmpty : Text.Layout → Bool
  | a :: b :: _ => Text.Layout.isBreak a && Text.Layout.isBreak b
  | _ => false

/-- Lines after others, which are given in reverse, without an empty line at the start or after
another one. -/
def appendLines (done lines : Text.Layout) : Text.Layout :=
  match lines with
  | [] => done
  | item :: rest =>
    if Text.Layout.isBreak item && (done.isEmpty || endsEmpty done) then rest.reverse ++ done
    else lines.reverse ++ done

/-! ### Places -/

/-- The number of items up to the last empty line before the first line that is no comment. `place`
counts the items before, and `last` those up to the last empty line so far. `fuel` bounds the number
of lines. -/
def lastEmpty : Nat → Nat → Nat → Text.Layout → Nat
  | 0, _, last, _ => last
  | fuel + 1, place, last, items =>
    let margin := items.takeWhile fun item => item == .char ' ' || item == .char '\t'
    let rest := items.drop margin.length
    let text := if startsComment rest then rest.takeWhile fun item => !Text.Layout.isBreak item
      else []
    match rest.drop text.length with
    | [] => last
    | item :: rest =>
      if Text.Layout.isBreak item then
        let place := place + margin.length + text.length + 1
        lastEmpty fuel place (if text.isEmpty then place else last) rest
      else last

/-- Where constraints are placed that are stated at the given places: at the first of them, if that
is further up. -/
def place (items : Text.Layout) (expressions legacy : List Nat) : Nat :=
  let last := lastEmpty items.length 0 0 items
  let above (places : List Nat) := places.head?.filter (· < last)
  ((above expressions).or (above legacy)).getD last

/-- The items from `start` on without the lines at the given places, in reverse. `done` holds those
before in reverse. -/
def withoutLines (items : Text.Layout) (start : Nat) (done : Text.Layout) :
    List Nat → Text.Layout
  | [] => appendLines done (items.drop start)
  | position :: rest =>
    if position < start then withoutLines items start done rest
    else
      withoutLines items (position + (firstLine (items.drop position)).length)
        (appendLines done ((items.drop start).take (position - start))) rest

/-! ### The block -/

/-- The constraint that comments state together. There may be one expression only; where there is
none, all comments in the legacy form have to hold. -/
def constraint? (expressions legacy : List String) : Option BuildConstraint :=
  match expressions with
  | [] => (legacy.mapM BuildConstraint.ofComment?).bind (BuildConstraint.joined .and)
  | [expression] => BuildConstraint.ofComment? expression
  | _ => none

/-- The lines for the comments at the given places. They are made anew from the constraint, or kept
if there is none. An empty line follows. -/
def lines (items : Text.Layout) (expressions legacy : List Nat) : Text.Layout :=
  let comments (places : List Nat) := places.map fun place => comment (items.drop place)
  match constraint? (comments expressions) (comments legacy) with
  | none =>
    (expressions ++ legacy).flatMap (fun place => firstLine (items.drop place)) ++ [.char '\n']
  | some constraint =>
    let texts := ("//go:build " ++ constraint.text)
      :: (if legacy.isEmpty then [] else constraint.legacyLines)
    texts.flatMap (fun text => Text.Layout.guarded text ++ [.char '\n']) ++ [.char '\n']

/-- A layout with the constraints that are stated at the given places moved to the top. -/
def moved (items : Text.Layout) (constraints : List (Nat × BuildConstraint.Form)) : Text.Layout :=
  if constraints.isEmpty then items
  else
    let places (form : BuildConstraint.Form) := (constraints.filter (·.2 == form)).map Prod.fst
    let top := place items (places .expression) (places .legacy)
    let rest := withoutLines items top [] (constraints.map Prod.fst)
    let rest := if endsEmpty rest then rest.drop 1 else rest
    items.take top ++ lines items (places .expression) (places .legacy) ++ rest.reverse

end X86Decoder.Source.ConstraintBlock
