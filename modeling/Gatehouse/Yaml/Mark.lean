import Gatehouse.Yaml.Value

/-!
# The marks of a document

A value is written as a row of marks: one for each scalar, and two around
the content of each collection.  A mapping with one entry could turn out to
be a tag with its value, so its first mark waits until the key begins.  If
the key is such a mapping again, or has a tag, the mark that waits is lost,
and the row no longer closes what it has opened.  The value then cannot be
written.  Directly behind a tag the first mark of a mapping never waits.
-/

namespace Gatehouse.Yaml

/-- A mark of a document. -/
inductive Mark where
  | scalar
  | openSequence
  | closeSequence
  | openMapping
  | closeMapping
  deriving DecidableEq, Repr

/-- The first mark of a mapping that waits, if there is one. -/
def waiting (pending : Bool) : List Mark :=
  if pending then [.openMapping] else []

mutual

/--
The marks of a value; `pending` says that the first mark of the mapping
around it waits, and `labelled` that a tag stands in front of it.
-/
def marks (pending labelled : Bool) : Value → List Mark
  | .tagged _ value => marks false true value
  | .sequence items =>
    waiting pending ++ .openSequence :: (itemMarks items ++ [.closeSequence])
  | .mapping [(key, value)] =>
    (if labelled then .openMapping :: marks false false key
      else marks true false key) ++
      marks false false value ++ [.closeMapping]
  | .mapping entries =>
    waiting pending ++ .openMapping :: (entryMarks entries ++ [.closeMapping])
  | _ => waiting pending ++ [.scalar]

/-- The marks of the items of a sequence. -/
def itemMarks : List Value → List Mark
  | [] => []
  | item :: rest => marks false false item ++ itemMarks rest

/-- The marks of the entries of a mapping. -/
def entryMarks : List (Value × Value) → List Mark
  | [] => []
  | (key, value) :: rest =>
    marks false false key ++ marks false false value ++ entryMarks rest

end

@[simp]
theorem itemMarks_nil : itemMarks [] = [] := rfl

@[simp]
theorem itemMarks_cons (item : Value) (rest : List Value) :
    itemMarks (item :: rest) = marks false false item ++ itemMarks rest := rfl

@[simp]
theorem entryMarks_nil : entryMarks [] = [] := rfl

/-- What may stand next in an open collection. -/
inductive Opening where
  | item
  | key
  | value
  deriving DecidableEq, Repr

/-- Why a row of marks is no document. -/
inductive MarkFault where
  /-- A collection is closed where only a value can stand. -/
  | valueExpected
  /-- A collection is closed and none is open. -/
  | documentExpected
  deriving DecidableEq, Repr

def MarkFault.message : MarkFault → String
  | .valueExpected =>
    "expected SCALAR, SEQUENCE-START, MAPPING-START, or ALIAS"
  | .documentExpected => "expected DOCUMENT-START or STREAM-END"

/-- The open collections, the innermost first, behind one more value. -/
def advance : List Opening → List Opening
  | .key :: outer => .value :: outer
  | .value :: outer => .key :: outer
  | stack => stack

/-- The open collections behind a mark. -/
def follow (stack : List Opening) (mark : Mark) :
    Except MarkFault (List Opening) :=
  match mark, stack with
  | .scalar, _ => .ok (advance stack)
  | .openSequence, _ => .ok (.item :: advance stack)
  | .openMapping, _ => .ok (.key :: advance stack)
  | .closeSequence, .item :: outer => .ok outer
  | .closeMapping, .key :: outer => .ok outer
  | _, [] => .error .documentExpected
  | _, _ => .error .valueExpected

/-- Whether a value can be written, and if not, why. -/
def checkMarks (value : Value) : Except MarkFault Unit :=
  ((marks false false value).foldlM follow []).map fun _ => ()

end Gatehouse.Yaml
