import HMSignature.Proofs.Grammar.Writing
/-!
# Every tree has a text

A tree of the right shape can be written down: the parameters of an application and the segments of a function each in
brackets of their own, so that nothing depends on how brackets are saved. The text is read back as the tree, thus the
trees that are read are all those of the right shape.

Results:
1. `IsTree.reads`: the text of a tree is read as the tree, whatever follows it;
2. `isTree_iff_parses`: the well-formed trees are those of signatures, and which text each of them is read from.
-/

namespace HMSignature.Grammar

/-! ## The text of a tree -/

/-- A text in round brackets. -/
def inBrackets (text : String) : String := "(" ++ text ++ ")"

namespace Entry

mutual

/-- The text of a tree, with brackets around each parameter of an application and each segment of a function. -/
def written : Entry → String
  | .node .function _ segments => " -> ".intercalate ((writtenAll segments).map inBrackets)
  | .node .list _ elements => "[" ++ String.join (writtenAll elements) ++ "]"
  | .node .record _ [] => "\x7b\x7d"
  | .node .record _ fields => "\x7b " ++ ", ".intercalate (writtenAll fields) ++ " \x7d"
  | .node .field name types => name ++ " :: " ++ String.join (writtenAll types)
  | .node .thunk _ _ => "()"
  | .node _ name params => " ".intercalate (name :: (writtenAll params).map inBrackets)

/-- The texts of several trees. -/
def writtenAll : List Entry → List String
  | [] => []
  | entry :: rest => written entry :: writtenAll rest

end

theorem written_application {kind : Kind} (applied : kind = .constructor ∨ kind = .constrained) (name : String)
    (first : Entry) (others : List Entry) :
    (node kind name (first :: others)).written =
      name ++ " " ++ " ".intercalate (inBrackets first.written :: (writtenAll others).map inBrackets) := by
  rcases applied with rfl | rfl <;>
    rw [written, writtenAll, List.map_cons, String.intercalate_cons_cons] <;> simp

theorem written_list (element : Entry) : (list element).written = "[" ++ element.written ++ "]" := by
  rw [list, written, writtenAll, writtenAll, String.join_cons, String.join_nil, String.append_empty]

theorem written_record (first : Entry) (others : List Entry) :
    (record (first :: others)).written =
      "\x7b " ++ ", ".intercalate (first.written :: writtenAll others) ++ " \x7d" := by
  rw [record, written, writtenAll]
  exact List.cons_ne_nil _ _

theorem written_field (name : String) (type : Entry) : (field name type).written = name ++ " :: " ++ type.written := by
  rw [field, written, writtenAll, writtenAll, String.join_cons, String.join_nil, String.append_empty]

end Entry

/-! ## Reading it back -/

/-- Parameters with blanks in between. -/
theorem Reads.allParams {text : String} {texts : List String} {entry : Entry} {entries : List Entry}
    (h : Reads AtomAt text entry) (hs : List.Forall₂ (Reads AtomAt) texts entries) :
    Reads AtomsAt (" ".intercalate (text :: texts)) (entry :: entries) := by
  induction hs generalizing text entry with
  | nil => exact h.param
  | cons next _ ih =>
    rw [String.intercalate_cons_cons]
    exact h.params (ih next)

/-- Fields with commas in between. -/
theorem Reads.allFields {text : String} {texts : List String} {entry : Entry} {entries : List Entry}
    (h : Reads FieldAt text entry) (hs : List.Forall₂ (Reads FieldAt) texts entries) :
    Reads AllFieldsAt (", ".intercalate (text :: texts)) (entry :: entries) := by
  induction hs generalizing text entry with
  | nil => exact h.lastField
  | cons next _ ih =>
    rw [String.intercalate_cons_cons]
    exact h.moreFields (ih next)

theorem Reads.application {text : String} {entry : Entry} (h : Reads ApplicationAt text entry) :
    Reads TypeAt text entry :=
  h.lastSegment.type

mutual

/-- The text of a tree is read as the tree. -/
theorem IsTree.reads {entry : Entry} : IsTree entry → Reads TypeAt entry.written entry
  | .constructor name .nil => (Reads.upper name).bare.application
  | .constructor name (.cons first others) => by
    rw [Entry.constructor, Entry.written_application (.inl rfl)]
    exact (Reads.constructor name (first.reads.bracketed.allParams others.read)).application
  | .function (.cons first others) =>
      (first.reads.bracketed.bare.allSegments (others.read.imp fun _ _ reads => reads.bare)).type
  | .list element => by
    rw [Entry.written_list]
    exact element.reads.list.bare.application
  | .record .nil => Reads.emptyRecord.bare.application
  | .record (.cons name type others) => by
    rw [Entry.written_record, Entry.written_field]
    exact ((type.reads.field name).allFields others.read).record.bare.application
  | .var name => (Reads.lower name).bare.application
  | .constrained name (.cons first others) => by
    rw [Entry.constrained, Entry.written_application (.inr rfl)]
    exact (Reads.constrained name (first.reads.bracketed.allParams others.read)).application
  | .thunk => Reads.thunk.bare.application

theorem AreTrees.read {entries : List Entry} :
    AreTrees entries → List.Forall₂ (Reads AtomAt) ((Entry.writtenAll entries).map inBrackets) entries
  | .nil => .nil
  | .cons first others => .cons first.reads.bracketed others.read

theorem AreFields.read {entries : List Entry} :
    AreFields entries → List.Forall₂ (Reads FieldAt) (Entry.writtenAll entries) entries
  | .nil => .nil
  | .cons name type others => by
    rw [Entry.writtenAll, Entry.written_field]
    exact .cons (type.reads.field name) others.read

end

/-- The trees of signatures are the well-formed ones. The text of a tree, behind any name, has this tree. -/
theorem isTree_iff_parses (entry : Entry) :
    (IsTree entry ↔ ∃ text s, parse text = .ok s ∧ s.type = entry) ∧
    (IsTree entry → ∀ name, IsName name → parse (name ++ " :: " ++ entry.written) = .ok ⟨name, [], entry⟩) := by
  refine ⟨⟨fun tree => ⟨_, _, parse_of_reads (by decide : IsName "f") tree.reads, rfl⟩, ?_⟩,
    fun tree _ isName => parse_of_reads isName tree.reads⟩
  rintro ⟨text, s, parsed, rfl⟩
  exact isTree_of_parse parsed

theorem isTree_iff_parses_nested :
    parse "f :: (m (Map (String) (())) (a)) -> ((\x7b x :: (a) -> (b), x :: [()] \x7d) -> (\x7b\x7d))" =
      .ok ⟨"f", [], .function [
        .constrained "m" [.constructor "Map" [.constructor "String" [], .thunk], .var "a"],
        .function [
          .record [.field "x" (.function [.var "a", .var "b"]), .field "x" (.list .thunk)],
          .record []]]⟩ := by
  have a : IsTree (.var "a") := .var (by decide)
  have m : IsTree (.constrained "m" [.constructor "Map" [.constructor "String" [], .thunk], .var "a"]) :=
    .constrained (by decide) (.cons (.constructor (by decide)
      (.cons (.constructor (by decide) .nil) (.cons .thunk .nil))) (.cons a .nil))
  have x : IsTree (.record [.field "x" (.function [.var "a", .var "b"]), .field "x" (.list .thunk)]) :=
    .record (.cons (by decide) (.function (.cons a (.cons (.var (by decide)) .nil)))
      (.cons (by decide) (.list .thunk) .nil))
  exact (isTree_iff_parses _).2
    (.function (.cons m (.cons (.function (.cons x (.cons (.record .nil) .nil))) .nil))) "f" (by decide)

end HMSignature.Grammar
