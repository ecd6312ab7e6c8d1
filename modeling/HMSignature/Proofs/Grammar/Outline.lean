import HMSignature.Grammar.Outline
import HMSignature.Proofs.Grammar.Shape
/-!
# Reading an outline

The levels of an outline are told by indentation alone, and the trees of a list by nothing at all. Still the outline of
a tree can be read. From the last line to the first, the trees that have been read so far are kept with their depths,
and each line takes those that are deeper than it, up to the first that is not, as its children.

This needs lines that can be read by themselves: the label of a kind has no blanks in it, and a text is either a name or
empty, thus what is cut off at the end of a line is only the blank in front of an empty text.

Results:
1. `Line.read_write`: a line says what has been written in it;
2. `Entry.forest_lines`: the lines of a tree are read as the tree, if nothing deeper follows them;
3. `IsTree.readable`: the lines of a well-formed tree can be read.
-/

namespace HMSignature.Grammar

/-- A list is cut where the property ends. -/
theorem cut_append {α : Type} {p : α → Bool} {before : List α} (after : List α) (all : ∀ a ∈ before, p a = true)
    (stops : ∀ a ∈ after.head?, p a = false) :
    (before ++ after).takeWhile p = before ∧ (before ++ after).dropWhile p = after := by
  rw [List.takeWhile_append_of_pos all, List.dropWhile_append_of_pos all]
  cases after with
  | nil => exact ⟨List.append_nil _, rfl⟩
  | cons a rest =>
    have stop : ¬p a = true := ne_true_of_eq_false (stops a rfl)
    rw [List.takeWhile_cons_of_neg stop, List.dropWhile_cons_of_neg stop]
    exact ⟨List.append_nil _, rfl⟩

theorem map_map_eq_self {α β : Type} {f : α → β} {g : β → α} {l : List α} (inverse : ∀ a ∈ l, g (f a) = a) :
    (l.map f).map g = l := by
  rw [List.map_map]
  exact (List.map_congr_left inverse).trans (List.map_id l)

/-! ## Blanks at the end -/

/-- The text ends in a character that is no blank. -/
def EndsSolid (text : String) : Prop := ∃ c, text.toList.getLast? = some c ∧ Text.isBlank c = false

theorem EndsSolid.append {text : String} (h : EndsSolid text) (before : String) : EndsSolid (before ++ text) := by
  obtain ⟨c, last, solid⟩ := h
  refine ⟨c, ?_, solid⟩
  rw [String.toList_append, List.getLast?_append, last, Option.some_or]

theorem EndsSolid.trimEnd {text : String} (h : EndsSolid text) : Text.trimEnd text = text := by
  obtain ⟨c, last, solid⟩ := h
  obtain ⟨before, chars⟩ := List.getLast?_eq_some_iff.mp last
  rw [← String.toList_inj, Text.trimEnd, String.toList_ofList, chars, List.reverse_append, List.reverse_singleton,
    List.singleton_append, List.dropWhile_cons_of_neg (by rw [solid]; nofun), List.reverse_cons, List.reverse_reverse]

theorem trimEnd_space (text : String) : Text.trimEnd (text ++ " ") = Text.trimEnd text := by
  rw [Text.trimEnd, String.toList_append, show " ".toList = [' '] from rfl, List.reverse_append,
    List.reverse_singleton, List.singleton_append, List.dropWhile_cons_of_pos (by decide), Text.trimEnd]

/-- No character of the text is a blank. -/
def IsSolid (text : String) : Prop := text ≠ "" ∧ ∀ c ∈ text.toList, Text.isBlank c = false

instance (text : String) : Decidable (IsSolid text) :=
  decidable_of_iff (text ≠ "" ∧ text.toList.all (fun c => Text.isBlank c = false) = true) (by simp [IsSolid])

theorem IsSolid.endsSolid {text : String} (h : IsSolid text) : EndsSolid text := by
  have chars : text.toList ≠ [] := fun empty => h.1 (String.toList_eq_nil_iff.mp empty)
  exact ⟨_, List.getLast?_eq_some_getLast chars, h.2 _ (List.getLast_mem chars)⟩

theorem isSolid_of_isName {name : String} (h : IsName name) : IsSolid name := by
  refine ⟨h.1, fun c inside => ?_⟩
  have isName := h.2 c inside
  unfold CharClass.ofChar at isName
  split at isName
  · cases isName
  · rename_i solid
    exact eq_false_of_ne_true solid

theorem IsSolid.not_mem {text : String} (h : IsSolid text) {c : Char} (blank : Text.isBlank c = true) :
    c ∉ text.toList := by
  intro inside
  rw [h.2 c inside] at blank
  cases blank

/-! ## Lines -/

/-- What a line says: how deep it is, and what stands in front of the first blank and after it. -/
structure Line where
  depth : Nat
  label : String
  text : String

namespace Line

/-- The line as a text. -/
def write (line : Line) : String :=
  Text.trimEnd (String.ofList (List.replicate (2 * line.depth) ' ') ++ line.label ++ " " ++ line.text)

/-- What a text says as a line. -/
def read (written : String) : Line :=
  let content := written.toList.dropWhile (· = ' ')
  ⟨(written.toList.takeWhile (· = ' ')).length / 2, String.ofList (content.takeWhile (· ≠ ' ')),
    String.ofList ((content.dropWhile (· ≠ ' ')).drop 1)⟩

/-- The parts of the line can be told from each other, and it is one line. -/
structure Readable (line : Line) : Prop where
  label : IsSolid line.label
  text : line.text = "" ∨ EndsSolid line.text
  unbroken : '\n' ∉ line.text.toList

/-- The label, and the text behind a blank, if there is one. -/
def content (line : Line) : List Char :=
  line.label.toList ++ if line.text = "" then [] else ' ' :: line.text.toList

theorem toList_write {line : Line} (h : line.Readable) :
    line.write.toList = List.replicate (2 * line.depth) ' ' ++ line.content := by
  unfold write content
  rcases h.text with none | some
  · -- The line ends in the blank before the text, and the label does not end in another one.
    rw [none, String.append_empty, trimEnd_space, (h.label.endsSolid.append _).trimEnd, if_pos rfl, List.append_nil,
      String.toList_append, String.toList_ofList]
  · have nonempty : line.text ≠ "" := by
      rintro none
      obtain ⟨c, last, -⟩ := some
      rw [none] at last
      cases last
    rw [(some.append _).trimEnd, if_neg nonempty]
    simp only [String.toList_append, String.toList_ofList, List.append_assoc]
    rfl

theorem not_mem_write {line : Line} (h : line.Readable) : '\n' ∉ line.write.toList := by
  rw [toList_write h, content, List.mem_append, List.mem_append]
  rintro (inIndentation | inLabel | inText)
  · cases List.eq_of_mem_replicate inIndentation
  · exact h.label.not_mem (by decide) inLabel
  · split at inText
    · cases inText
    · exact h.unbroken ((List.mem_cons.mp inText).resolve_left (by decide))

theorem cut_content {line : Line} (h : line.Readable) :
    line.content.takeWhile (· ≠ ' ') = line.label.toList ∧
      (line.content.dropWhile (· ≠ ' ')).drop 1 = line.text.toList := by
  have noSpace : ∀ c ∈ line.label.toList, decide (c ≠ ' ') = true := by
    rintro c inside
    refine decide_eq_true ?_
    rintro rfl
    exact h.label.not_mem (by decide) inside
  unfold content
  split
  · rename_i none
    obtain ⟨label, rest⟩ := cut_append [] noSpace nofun
    rw [label, rest, none]
    exact ⟨rfl, rfl⟩
  · obtain ⟨label, rest⟩ := cut_append (' ' :: line.text.toList) noSpace (by rintro _ ⟨⟩; decide)
    rw [label, rest]
    exact ⟨rfl, rfl⟩

/-- A line says what has been written in it. -/
theorem read_write {line : Line} (h : line.Readable) : read line.write = line := by
  have starts : ∀ c ∈ line.content.head?, decide (c = ' ') = false := by
    obtain ⟨first, others, chars⟩ :=
      List.exists_cons_of_ne_nil fun empty => h.label.1 (String.toList_eq_nil_iff.mp empty)
    rw [content, chars, List.cons_append]
    rintro _ ⟨⟩
    refine decide_eq_false ?_
    rintro rfl
    exact h.label.not_mem (by decide) (chars ▸ List.mem_cons_self)
  have spaces : ∀ c ∈ List.replicate (2 * line.depth) ' ', decide (c = ' ') = true :=
    fun c inside => decide_eq_true (List.eq_of_mem_replicate inside)
  obtain ⟨indentation, rest⟩ := cut_append line.content spaces starts
  obtain ⟨label, text⟩ := cut_content h
  simp only [read, toList_write h, indentation, rest, label, text, List.length_replicate, String.ofList_toList,
    Nat.mul_div_cancel_left _ Nat.two_pos]

end Line

/-! ## Trees -/

namespace Kind

/-- The kinds that a signature can have nodes of. -/
def all : List Kind := [constructor, function, list, record, field, constrained, var, thunk]

theorem ofLabel_label {kind : Kind} (h : kind ∈ all) : ofLabel kind.label = kind := by
  revert kind
  decide

theorem isSolid_label {kind : Kind} (h : kind ∈ all) : IsSolid kind.label := by
  revert kind
  decide

end Kind

namespace Entry

mutual

/-- What the lines of a tree say. -/
def lines (depth : Nat) : Entry → List Line
  | .node kind text children => ⟨depth, kind.label, text⟩ :: linesOfAll (depth + 1) children

/-- What the lines of several trees say. -/
def linesOfAll (depth : Nat) : List Entry → List Line
  | [] => []
  | entry :: rest => lines depth entry ++ linesOfAll depth rest

end

mutual

theorem outline_eq_map_write (depth : Nat) : ∀ entry : Entry, entry.outline depth = (entry.lines depth).map Line.write
  | .node kind text children => by
    rw [outline, lines, List.map_cons, outlines_eq_map_write (depth + 1) children]
    rfl

theorem outlines_eq_map_write (depth : Nat) :
    ∀ entries, outlines depth entries = (linesOfAll depth entries).map Line.write
  | [] => rfl
  | entry :: rest => by
    rw [outlines, linesOfAll, List.map_append, outline_eq_map_write depth entry, outlines_eq_map_write depth rest]

end

/-- A line in front of trees that have been read: those deeper than the line are its children. -/
def attach (line : Line) (forest : List (Nat × Entry)) : List (Nat × Entry) :=
  (line.depth, .node (.ofLabel line.label) line.text ((forest.takeWhile (line.depth < ·.1)).map (·.2))) ::
    forest.dropWhile (line.depth < ·.1)

/-- The trees that lines show, with their depths. -/
def forest (lines : List Line) : List (Nat × Entry) :=
  lines.foldr attach []

mutual

/-- The nodes of the tree are of known kinds, and their texts are names or empty. -/
def Readable : Entry → Prop
  | .node kind text children => kind ∈ Kind.all ∧ (text = "" ∨ IsName text) ∧ AllReadable children

/-- The trees are all readable. -/
def AllReadable : List Entry → Prop
  | [] => True
  | entry :: rest => Readable entry ∧ AllReadable rest

end

mutual

/-- Behind the lines of a tree may be whatever is not deeper. -/
theorem forest_lines {depth : Nat} {forest : List (Nat × Entry)} (shallow : ∀ next ∈ forest.head?, next.1 ≤ depth) :
    ∀ {entry : Entry}, Readable entry → (entry.lines depth).foldr attach forest = (depth, entry) :: forest
  | .node kind text children, ⟨known, _, readable⟩ => by
    -- The children have been read by now, one level deeper; the line takes them and nothing of what follows.
    have deeper : ∀ child ∈ children.map (depth + 1, ·), decide (depth < child.1) = true := by
      rintro _ inside
      obtain ⟨_, _, rfl⟩ := List.mem_map.mp inside
      exact decide_eq_true (Nat.lt_succ_self depth)
    have stops : ∀ next ∈ forest.head?, decide (depth < next.1) = false :=
      fun next first => decide_eq_false (Nat.not_lt.mpr (shallow next first))
    obtain ⟨inside, outside⟩ := cut_append forest deeper stops
    have trees : (children.map (depth + 1, ·)).map (·.2) = children := map_map_eq_self fun _ _ => rfl
    rw [lines, List.foldr_cons, forest_linesOfAll (fun next first => Nat.le_succ_of_le (shallow next first)) readable,
      attach, inside, outside, Kind.ofLabel_label known, trees]

theorem forest_linesOfAll {depth : Nat} {forest : List (Nat × Entry)}
    (shallow : ∀ next ∈ forest.head?, next.1 ≤ depth) :
    ∀ {entries : List Entry}, AllReadable entries →
      (linesOfAll depth entries).foldr attach forest = entries.map (depth, ·) ++ forest
  | [], _ => rfl
  | entry :: rest, ⟨first, others⟩ => by
    -- A tree is followed by its siblings, which are as deep as itself.
    have shallowRest : ∀ next ∈ (rest.map (depth, ·) ++ forest).head?, next.1 ≤ depth := by
      cases rest with
      | nil => exact shallow
      | cons second more =>
        rintro _ ⟨⟩
        exact Nat.le_refl depth
    rw [linesOfAll, List.foldr_append, forest_linesOfAll shallow others, forest_lines shallowRest first]
    rfl

end

theorem head?_lines (depth : Nat) (entry : Entry) :
    (entry.lines depth).head? = some ⟨depth, entry.kind.label, entry.text⟩ := by
  obtain ⟨kind, text, children⟩ := entry
  rfl

theorem Readable.known {entry : Entry} (h : entry.Readable) : entry.kind ∈ Kind.all := by
  obtain ⟨kind, text, children⟩ := entry
  exact h.1

theorem readable_line {depth : Nat} {kind : Kind} {text : String} (h : kind ∈ Kind.all ∧ (text = "" ∨ IsName text)) :
    (Line.mk depth kind.label text).Readable := by
  obtain ⟨known, rfl | isName⟩ := h
  · exact ⟨Kind.isSolid_label known, .inl rfl, nofun⟩
  · have solid := isSolid_of_isName isName
    exact ⟨Kind.isSolid_label known, .inr solid.endsSolid, solid.not_mem (by decide)⟩

mutual

theorem readable_lines {depth : Nat} : ∀ {entry : Entry}, Readable entry → ∀ line ∈ entry.lines depth, line.Readable
  | .node kind text children, ⟨known, isName, readable⟩ => by
    rw [lines, List.forall_mem_cons]
    exact ⟨readable_line ⟨known, isName⟩, readable_linesOfAll readable⟩

theorem readable_linesOfAll {depth : Nat} :
    ∀ {entries : List Entry}, AllReadable entries → ∀ line ∈ linesOfAll depth entries, line.Readable
  | [], _ => nofun
  | entry :: rest, ⟨first, others⟩ => by
    rw [linesOfAll, List.forall_mem_append]
    exact ⟨readable_lines first, readable_linesOfAll others⟩

end

end Entry

mutual

theorem IsTree.readable {entry : Entry} : IsTree entry → entry.Readable
  | .constructor name params => ⟨by decide, .inr name.1, params.readable⟩
  | .function segments => ⟨by decide, .inl rfl, segments.readable⟩
  | .list element => ⟨by decide, .inl rfl, element.readable, trivial⟩
  | .record fields => ⟨by decide, .inl rfl, fields.readable⟩
  | .var name => ⟨by decide, .inr name.1, trivial⟩
  | .constrained name params => ⟨by decide, .inr name.1, params.readable⟩
  | .thunk => ⟨by decide, .inl rfl, trivial⟩

theorem AreTrees.readable {entries : List Entry} : AreTrees entries → Entry.AllReadable entries
  | .nil => trivial
  | .cons first others => ⟨first.readable, others.readable⟩

theorem AreFields.readable {entries : List Entry} : AreFields entries → Entry.AllReadable entries
  | .nil => trivial
  | .cons name type others => ⟨⟨by decide, .inr name, type.readable, trivial⟩, others.readable⟩

end

end HMSignature.Grammar
