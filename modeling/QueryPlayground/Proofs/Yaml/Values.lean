import QueryPlayground.Proofs.Except
import QueryPlayground.Yaml.Document

/-! Parts of a settings text that have no value. A scalar may be none of the words of its type, no number, or no
date of the calendar. Whether a document has such a part is told by its nodes as they are written, before any
value is made of them. -/
namespace QueryPlayground.Yaml

/-! ### Texts without a value -/

/-- A timestamp with a number out of range: of the year, the month, the day or the zone, or of the time of day. -/
inductive Timestamp.OutOfRange (stamp : Timestamp) : CalendarFault → Prop where
  | year (h : stamp.year = 0 ∨ 9999 < stamp.year) : OutOfRange stamp (.year stamp.year)
  | month (h : stamp.month = 0 ∨ 12 < stamp.month) : OutOfRange stamp .month
  | day (h : stamp.day = 0 ∨ Date.daysIn stamp.year stamp.month < stamp.day) : OutOfRange stamp .day
  | hour {time : TimeOfDay} (hTime : stamp.time = some time) (h : 23 < time.hour) : OutOfRange stamp .hour
  | minute {time : TimeOfDay} (hTime : stamp.time = some time) (h : 59 < time.minute) : OutOfRange stamp .minute
  | second {time : TimeOfDay} (hTime : stamp.time = some time) (h : 59 < time.second) : OutOfRange stamp .second
  | offset {time : TimeOfDay} {zone : Zone} (hTime : stamp.time = some time) (hZone : time.zone = some zone)
      (h : Timestamp.offset zone ≤ -1440 ∨ 1440 ≤ Timestamp.offset zone) :
      OutOfRange stamp (.offset (Timestamp.offset zone))

/-- A text without the line break at its end, if it ends with one. -/
def withoutLastBreak (text : List Char) : List Char := if text.getLast? = some '\n' then text.dropLast else text

/-- A text without a value of a type. -/
inductive Tag.Lacks : Tag → List Char → ValueFault → Prop where
  | bool {text : List Char} (hWord : ∀ b, (String.ofList (Text.lowerChars text), b) ∉ booleans) :
      Lacks .bool text (.boolean (String.ofList (Text.lowerChars text)))
  | int {text : List Char} {fault : ValueFault} (hNumber : integerOf text = .error fault) : Lacks .int text fault
  | float {text : List Char} {fault : ValueFault} (hNumber : floatOf text = .error fault) : Lacks .float text fault
  | form {text : List Char} (hForm : Timestamp.ofText? (withoutLastBreak text) = none) :
      Lacks .timestamp text .timestamp
  | calendar {text : List Char} {stamp : Timestamp} {fault : CalendarFault}
      (hForm : Timestamp.ofText? (withoutLastBreak text) = some stamp) (hRange : stamp.OutOfRange fault) :
      Lacks .timestamp text (.calendar fault)

/-- What a fault is for: a text that breaks off, if it may, or a lack of values. -/
def Fault.IsFor (breaks : Prop) (lacks : ValueFault → Prop) : Fault → Prop
  | .malformed => True
  | .broken => breaks
  | .value fault => lacks fault

theorem Fault.IsFor.mono {breaks : Prop} {lacks lacks' : ValueFault → Prop} {fault : Fault}
    (h : fault.IsFor breaks lacks) (hLacks : ∀ fault, lacks fault → lacks' fault) : fault.IsFor breaks lacks' := by
  cases fault with
  | malformed => trivial
  | broken => exact h
  | value fault => exact hLacks fault h

/-- Every text is a text. -/
theorem Tag.Lacks.tag_ne {tag : Tag} {text : List Char} {fault : ValueFault} (h : tag.Lacks text fault) :
    tag ≠ .str := by
  cases h <;> decide

theorem Timestamp.outOfRange_of_make {stamp : Timestamp} {fault : CalendarFault}
    (h : Date.make stamp.year stamp.month stamp.day = .error fault) : stamp.OutOfRange fault := by
  unfold Date.make at h
  split at h
  next hYear =>
      cases h
      exact .year hYear
  split at h
  next hMonth =>
      cases h
      exact .month hMonth
  split at h
  next hDay =>
      cases h
      exact .day hDay
  next => cases h

/-- A timestamp has no value only for a number out of range. -/
theorem Timestamp.ends_value (stamp : Timestamp) : Ends (fun _ => True) stamp.OutOfRange stamp.value := by
  have hDate : Ends (fun _ => True) stamp.OutOfRange (Date.make stamp.year stamp.month stamp.day) := by
    cases hMake : Date.make stamp.year stamp.month stamp.day with
    | error fault => exact outOfRange_of_make hMake
    | ok date => trivial
  unfold value
  split
  next => exact hDate.map fun _ _ => trivial
  next time hTime =>
      have hTimes : ∀ offset : Option Int, Ends (fun _ => True) stamp.OutOfRange (do
          let date ← Date.make stamp.year stamp.month stamp.day
          if 23 < time.hour then throw .hour
          if 59 < time.minute then throw .minute
          if 59 < time.second then throw .second
          return (⟨date, time.hour, time.minute, time.second, microseconds time.fraction, offset⟩ : Instant)) := by
        intro offset
        refine hDate.bind fun date _ => ?_
        refine Ends.unless (.hour hTime) (Ends.unless (.minute hTime) (Ends.unless (.second hTime) ?_))
        trivial
      have hMake : Ends (fun _ => True) stamp.OutOfRange (Instant.make stamp.year stamp.month stamp.day time.hour
          time.minute time.second (microseconds time.fraction) (time.zone.map offset)) := by
        unfold Instant.make
        cases hZone : time.zone with
        | none => exact hTimes none
        | some zone =>
            dsimp only [Option.map]
            split
            next hOffset => exact .offset hTime hZone hOffset
            next => exact hTimes (some (offset zone))
      exact hMake.map fun _ _ => trivial

theorem ends_mapError {α : Type} {breaks : Prop} {lacks : ValueFault → Prop} {act : Except ValueFault α}
    (h : ∀ fault, act = .error fault → lacks fault) :
    Ends (fun _ => True) (Fault.IsFor breaks lacks) (act.mapError .value) := by
  cases hAct : act with
  | error fault => exact h fault hAct
  | ok a => trivial

/-- The text of a scalar has a value of its type, unless it lacks one or breaks the rules. -/
theorem ends_scalarOf (tag : Tag) (text : List Char) :
    Ends (fun _ => True) (Fault.IsFor False (tag.Lacks text)) (scalarOf tag text) := by
  cases tag with
  | bool =>
      unfold scalarOf
      dsimp only
      split
      next => trivial
      next hWord =>
          refine Tag.Lacks.bool fun b hb => ?_
          exact absurd (List.lookup_eq_none_iff.mp hWord _ hb) (by simp)
  | int =>
      refine ends_mapError fun fault hFault => .int ?_
      exact map_eq_error_iff.mp hFault
  | float =>
      refine ends_mapError fun fault hFault => .float ?_
      exact map_eq_error_iff.mp hFault
  | timestamp =>
      unfold scalarOf
      dsimp only
      split
      next hForm => exact Tag.Lacks.form hForm
      next stamp hForm =>
          have hValue := stamp.ends_value
          cases hStamp : stamp.value with
          | error fault => exact Tag.Lacks.calendar hForm (hValue.of_error hStamp)
          | ok value => trivial
  | binary =>
      unfold scalarOf
      dsimp only
      split <;> trivial
  | _ => trivial

/-! ### Nodes without a value -/

/-- A text that stands for a node: that of a scalar, or one that a mapping names as its value. -/
inductive StandsAt (nodes : Array Node) (place : Nat) (text : List Char) : Prop where
  | scalar {tag : Tag} (hNode : nodes.getD place default = .scalar tag text)
  | member {tag own : Tag} {members : List (Nat × Nat)} {key other : Nat}
      (hNode : nodes.getD place default = .mapping tag members) (hMark : (nodes.getD key default).tag = .value)
      (hOther : nodes.getD other default = .scalar own text)

theorem StandsAt.exists_scalar {nodes : Array Node} {place : Nat} {text : List Char} (h : StandsAt nodes place text) :
    ∃ other tag, nodes.getD other default = .scalar tag text := by
  cases h with
  | scalar hNode => exact ⟨place, _, hNode⟩
  | member _ _ hOther => exact ⟨_, _, hOther⟩

/-- Nodes of a document without a value: one whose text lacks a value of its type, a mapping in the place of a
timestamp, and mappings that are values of themselves. -/
inductive Lacks (nodes : Array Node) : ValueFault → Prop where
  | text {place : Nat} {text : List Char} {fault : ValueFault} (hText : StandsAt nodes place text)
      (hLacks : (nodes.getD place default).tag.Lacks text fault) : Lacks nodes fault
  | inParts {place : Nat} {members : List (Nat × Nat)}
      (hNode : nodes.getD place default = .mapping .timestamp members) : Lacks nodes .timestampInParts
  | endless {place : Nat} (hMark : (nodes.getD place default).tag = .value ∨ (nodes.getD place default).tag = .merge) :
      Lacks nodes .endless

/-- A node as it has become while values are made: a mapping may have other members, and a mark of a value may
count as a text. -/
inductive Node.MadeOf : Node → Node → Prop where
  | scalar {tag tag' : Tag} {text : List Char} (hTag : tag' = tag ∨ tag' = .str) :
      MadeOf (.scalar tag' text) (.scalar tag text)
  | sequence {tag tag' : Tag} {items : List Nat} (hTag : tag' = tag ∨ tag' = .str) :
      MadeOf (.sequence tag' items) (.sequence tag items)
  | mapping {tag tag' : Tag} {members members' : List (Nat × Nat)} (hTag : tag' = tag ∨ tag' = .str) :
      MadeOf (.mapping tag' members') (.mapping tag members)

namespace Node

variable {node other : Node}

theorem MadeOf.refl (node : Node) : node.MadeOf node := by
  cases node with
  | scalar => exact .scalar (.inl rfl)
  | sequence => exact .sequence (.inl rfl)
  | mapping => exact .mapping (.inl rfl)

theorem MadeOf.tag (h : node.MadeOf other) : node.tag = other.tag ∨ node.tag = .str := by
  cases h <;> assumption

/-- No type but that of texts is a new one. -/
theorem MadeOf.tag_eq (h : node.MadeOf other) {tag : Tag} (hTag : node.tag = tag) (hText : tag ≠ .str) :
    other.tag = tag := by
  rcases h.tag with hSame | hStr
  · rw [← hSame, hTag]
  · exact absurd (hTag.symm.trans hStr) hText

theorem MadeOf.asText (h : node.MadeOf other) : (Build.asText node).MadeOf other := by
  unfold Build.asText
  split
  next =>
      cases h
      exact .scalar (.inr rfl)
  next =>
      cases h
      exact .sequence (.inr rfl)
  next =>
      cases h
      exact .mapping (.inr rfl)
  next => exact h

theorem MadeOf.setMembers (h : node.MadeOf other) (hMapping : ∃ tag members, other = .mapping tag members)
    (members : List (Nat × Nat)) : (Node.mapping node.tag members).MadeOf other := by
  obtain ⟨tag, others, rfl⟩ := hMapping
  cases h with
  | mapping hTag => exact .mapping hTag

end Node

/-- Nodes that are made of others, place by place. -/
def AllMadeOf (nodes others : Array Node) : Prop :=
  ∀ place, (nodes.getD place default).MadeOf (others.getD place default)

theorem AllMadeOf.modify {nodes others : Array Node} (h : AllMadeOf nodes others) {place : Nat} {f : Node → Node}
    (hChange : ∀ node, node.MadeOf (others.getD place default) → (f node).MadeOf (others.getD place default)) :
    AllMadeOf (nodes.modify place f) others := by
  intro other
  have hOther := h other
  simp only [Array.getD_eq_getD_getElem?, Array.getElem?_modify] at hOther hChange ⊢
  split
  next hPlace =>
      subst hPlace
      cases hNode : nodes[place]? with
      | none =>
          rw [hNode] at hOther
          exact hOther
      | some node =>
          rw [hNode] at hOther
          exact hChange node hOther
  next => exact hOther

theorem AllMadeOf.asText {nodes others : Array Node} (h : AllMadeOf nodes others) (members : List (Nat × Nat)) :
    AllMadeOf (members.foldl (fun nodes (key, _) => nodes.modify key Build.asText) nodes) others := by
  induction members generalizing nodes with
  | nil => exact h
  | cons member members ih => exact ih (h.modify fun node hNode => hNode.asText)

end QueryPlayground.Yaml
