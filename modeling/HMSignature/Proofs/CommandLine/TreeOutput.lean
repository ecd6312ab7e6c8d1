import HMSignature.Proofs.CommandLine.Arguments
import HMSignature.Proofs.Grammar.Outline
import HMSignature.Proofs.Grammar.Writing
/-!
# Reading the output of a tree

The lines that show a signature follow each other without a mark between its constraints and its tree. Every line says
by its label what it is, and no label of a constraint is one of a tree. So the signature can be read from them, and
from the output, in which no line has a break.

Results:
1. `ofLines?_signatureLines`: a signature is read from its lines;
2. `ofOutput?_treeLines`: and from the text that is put out for it;
3. `output_eq_iff`: different signatures are shown by different outputs.
-/

namespace HMSignature.CommandLine

open Grammar (Constraint Entry EndsSolid IsConstraint IsSolid Line Signature)

/-! ## Lines of a signature -/

/-- What the line of a constraint says. Its text is made of two words, as a line is. -/
def constraintLine (c : Constraint) : Line :=
  ⟨0, "constraint:", Line.write ⟨0, c.typeClass, c.typeVar⟩⟩

/-- What the lines of a signature say. -/
def signatureLines (s : Signature) : List Line :=
  ⟨0, "name:", s.name⟩ :: (s.constraints.map constraintLine ++ s.type.lines 0)

/-- The constraint in a line. -/
def constraintOf (line : Line) : Constraint :=
  let words := Line.read line.text
  ⟨words.label, words.text⟩

/-- The signature that lines show, if they show one. -/
def ofLines? : List Line → Option Signature
  | [] => none
  | first :: rest =>
      match Entry.forest (rest.dropWhile (·.label = "constraint:")) with
      | [(_, type)] => some ⟨first.text, (rest.takeWhile (·.label = "constraint:")).map constraintOf, type⟩
      | _ => none

/-- The signature that an output shows, if it shows one. -/
def ofOutput? (output : String) : Option Signature :=
  ofLines? ((output.toList.splitOn '\n').dropLast.map fun line => Line.read (String.ofList line))

theorem write_top {label text : String} (ends : EndsSolid text) :
    Line.write ⟨0, label, text⟩ = label ++ " " ++ text := by
  rw [Line.write, (ends.append _).trimEnd]
  exact congrArg (· ++ " " ++ text) (String.empty_append)

section Read

variable {s : Signature}

/-- A line with a solid text is readable if its label is. -/
theorem readable_top {label text : String} (isLabel : IsSolid label) (isText : IsSolid text) :
    (Line.mk 0 label text).Readable :=
  ⟨isLabel, .inr isText.endsSolid, isText.not_mem (by decide)⟩

theorem readable_words {c : Constraint} (h : IsConstraint c) : (Line.mk 0 c.typeClass c.typeVar).Readable :=
  readable_top (Grammar.isSolid_of_isName h.typeClass.1) (Grammar.isSolid_of_isName h.typeVar.1)

theorem write_words {c : Constraint} (h : IsConstraint c) :
    Line.write ⟨0, c.typeClass, c.typeVar⟩ = c.typeClass ++ " " ++ c.typeVar :=
  write_top (Grammar.isSolid_of_isName h.typeVar.1).endsSolid

theorem endsSolid_words {c : Constraint} (h : IsConstraint c) : EndsSolid (c.typeClass ++ " " ++ c.typeVar) :=
  (Grammar.isSolid_of_isName h.typeVar.1).endsSolid.append _

theorem readable_constraintLine {c : Constraint} (h : IsConstraint c) : (constraintLine c).Readable where
  label := (by decide : IsSolid "constraint:")
  text := .inr (by rw [constraintLine, write_words h]; exact endsSolid_words h)
  unbroken := Line.not_mem_write (readable_words h)

theorem write_constraintLine {c : Constraint} (h : IsConstraint c) :
    (constraintLine c).write = "constraint: " ++ c.typeClass ++ " " ++ c.typeVar := by
  rw [constraintLine, write_words h, write_top (endsSolid_words h), ← String.append_assoc, ← String.append_assoc]
  rfl

theorem constraintOf_constraintLine {c : Constraint} (h : IsConstraint c) : constraintOf (constraintLine c) = c := by
  rw [constraintOf, constraintLine, Line.read_write (readable_words h)]

theorem readable_signatureLines {text : String} (parsed : Grammar.parse text = .ok s) :
    ∀ line ∈ signatureLines s, line.Readable := by
  have name := Grammar.isSolid_of_isName (Grammar.isName_of_parse parsed)
  rw [signatureLines, List.forall_mem_cons, List.forall_mem_append, List.forall_mem_map]
  exact ⟨readable_top (by decide) name,
    fun c member => readable_constraintLine (Grammar.areConstraints_of_parse parsed c member),
    Entry.readable_lines (Grammar.isTree_of_parse parsed).readable⟩

/-- The lines that are put out say this. -/
theorem treeLines_eq_map_write {text : String} (parsed : Grammar.parse text = .ok s) :
    treeLines s = (signatureLines s).map Line.write := by
  have name := (Grammar.isSolid_of_isName (Grammar.isName_of_parse parsed)).endsSolid
  have constraints : ∀ c ∈ s.constraints,
      "constraint: " ++ c.typeClass ++ " " ++ c.typeVar = (constraintLine c).write :=
    fun c member => (write_constraintLine (Grammar.areConstraints_of_parse parsed c member)).symm
  rw [treeLines, signatureLines, List.map_cons, write_top name, List.map_append, List.map_map,
    Entry.outline_eq_map_write, List.map_congr_left constraints]
  rfl

/-- A signature is read from its lines. -/
theorem ofLines?_signatureLines {text : String} (parsed : Grammar.parse text = .ok s) :
    ofLines? (signatureLines s) = some s := by
  have isTree := Grammar.isTree_of_parse parsed
  have constraints : ∀ line ∈ s.constraints.map constraintLine, decide (line.label = "constraint:") = true := by
    rintro _ inside
    obtain ⟨c, -, rfl⟩ := List.mem_map.mp inside
    rfl
  -- The constraints end at the first line of the tree, whose label is that of a kind.
  have tree : ∀ line ∈ (s.type.lines 0).head?, decide (line.label = "constraint:") = false := by
    have noConstraint : ∀ kind ∈ Grammar.Kind.all, decide (kind.label = "constraint:") = false := by decide
    intro line first
    rw [Entry.head?_lines] at first
    cases first
    exact noConstraint _ isTree.readable.known
  have named : (s.constraints.map constraintLine).map constraintOf = s.constraints :=
    Grammar.map_map_eq_self fun c member =>
      constraintOf_constraintLine (Grammar.areConstraints_of_parse parsed c member)
  obtain ⟨before, after⟩ := Grammar.cut_append _ constraints tree
  rw [signatureLines, ofLines?, before, after, named, Entry.forest, Entry.forest_lines (by simp) isTree.readable]

/-- An output is cut into its lines. -/
theorem splitOn_lineText {lines : List String} (unbroken : ∀ line ∈ lines, '\n' ∉ line.toList) :
    (Report.lineText lines).toList.splitOn '\n' = lines.map String.toList ++ [[]] := by
  induction lines with
  | nil => rfl
  | cons first rest ih =>
    rw [List.forall_mem_cons] at unbroken
    obtain ⟨firstUnbroken, restUnbroken⟩ := unbroken
    have chars : (Report.lineText (first :: rest)).toList = first.toList ++ '\n' :: (Report.lineText rest).toList := by
      rw [Report.lineText, List.map_cons, String.join_cons, String.toList_append, String.toList_append,
        List.append_assoc]
      rfl
    have noBreak : ∀ c ∈ first.toList, (c == '\n') = false := by
      rintro c inside
      refine beq_false_of_ne ?_
      rintro rfl
      exact firstUnbroken inside
    rw [chars, List.splitOn, List.splitOnP_append_cons_of_forall_mem noBreak _ (by decide)]
    exact congrArg (first.toList :: ·) (ih restUnbroken)

/-- A signature is read from the output for it. -/
theorem ofOutput?_treeLines {text : String} (parsed : Grammar.parse text = .ok s) :
    ofOutput? (Report.lineText (treeLines s)) = some s := by
  have readable := readable_signatureLines parsed
  have unbroken : ∀ line ∈ (signatureLines s).map Line.write, '\n' ∉ line.toList :=
    List.forall_mem_map.mpr fun line member => Line.not_mem_write (readable line member)
  have readBack : ((signatureLines s).map Line.write).map Line.read = signatureLines s :=
    Grammar.map_map_eq_self fun line member => Line.read_write (readable line member)
  have texts (lines : List String) :
      (lines.map String.toList).map (fun line => Line.read (String.ofList line)) = lines.map Line.read := by
    rw [List.map_map]
    exact List.map_congr_left fun line _ => congrArg Line.read String.ofList_toList
  rw [treeLines_eq_map_write parsed, ofOutput?, splitOn_lineText unbroken, List.dropLast_concat, texts, readBack,
    ofLines?_signatureLines parsed]

end Read

/-! ## Outputs of runs -/

/-- A signature starts with its name, not with a dash. -/
theorem isPlain_of_parse {text : String} {s : Signature} (parsed : Grammar.parse text = .ok s) : IsPlain text := by
  intro dash
  obtain ⟨rest, chars⟩ := List.head?_eq_some_iff.mp dash
  obtain ⟨tokens, tokenized, derived⟩ := Grammar.parse_eq_ok_iff.mp parsed
  cases hruns : Grammar.runs text.toList with
  | nil =>
    rw [Grammar.tokenize, hruns] at tokenized
    cases tokenized
    cases derived
  | cons group groups =>
    -- The first run is of the class of the dash, so it is a symbol.
    obtain ⟨kind, run⟩ := group
    obtain ⟨c, others, chars', rfl⟩ := Grammar.runs_head hruns
    cases chars.symm.trans chars'
    rw [Grammar.tokenize, hruns, Grammar.tokensOfRuns_cons, (by decide : Grammar.CharClass.ofChar '-' = .symbol),
      Grammar.tokensOfRun, ok_bind] at tokenized
    obtain ⟨more, -, same⟩ := bind_eq_ok_iff.mp tokenized
    cases same
    cases derived

/-- Two signatures that can be read are put out alike exactly if they are the same: each can be read from its output,
and its tree from the lines for it. Of the reader of the arguments only what is documented is asked. -/
theorem output_eq_iff {reader : Reader} (documented : reader.Documented) {loader : Config.Loader} {setting : Setting}
    {verbose logs : Bool} {top : List String} (started : logging loader setting verbose = .ok logs)
    (asks : Asks verbose top) {text text' : String} {s s' : Signature} (parsed : Grammar.parse text = .ok s)
    (parsed' : Grammar.parse text' = .ok s') :
    ∃ report report', run reader loader setting (top ++ ["parse", text]) = .ok report ∧
      run reader loader setting (top ++ ["parse", text']) = .ok report' ∧ report.code = 0 ∧ report'.code = 0 ∧
      (Report.lineText report.output = Report.lineText report'.output ↔ s = s') ∧
      ofOutput? (Report.lineText report.output) = some s ∧
      Entry.forest ((s.type.outline 0).map Line.read) = [(0, s.type)] := by
  have runs : ∀ {text : String} {s : Signature}, Grammar.parse text = .ok s →
      run reader loader setting (top ++ ["parse", text]) = .ok ⟨0, treeLines s, []⟩ := by
    intro text s parsed
    rw [run_parse documented started asks (isPlain_of_parse parsed), parseReport, parsed]
  have readable := (Grammar.isTree_of_parse parsed).readable
  refine ⟨_, _, runs parsed, runs parsed', rfl, rfl, ?_, ofOutput?_treeLines parsed, ?_⟩
  · refine ⟨fun same => ?_, congrArg fun s => Report.lineText (treeLines s)⟩
    have shown := congrArg ofOutput? same
    rw [ofOutput?_treeLines parsed, ofOutput?_treeLines parsed'] at shown
    exact Option.some.inj shown
  · rw [Entry.outline_eq_map_write, Grammar.map_map_eq_self fun line member =>
      Line.read_write (Entry.readable_lines readable line member), Entry.forest, Entry.forest_lines (by simp) readable]

theorem output_eq_iff_nested :
    ∃ report report', program ⟨[], .empty, Builtin.firstFree⟩ ["-v", "parse", "f :: Monad m => m (n a)"] = .ok report ∧
      program ⟨[], .empty, Builtin.firstFree⟩ ["-v", "parse", "f :: Monad m => m n a"] = .ok report' ∧
      Report.lineText report.output ≠ Report.lineText report'.output := by
  have a (rest : List Grammar.Token) : Grammar.AtomAt (.name "a" :: rest) (.var "a") rest := .lower (by decide)
  have m (rest : List Grammar.Token) : Grammar.AtomAt (.name "m" :: rest) (.var "m") rest := .lower (by decide)
  have n (rest : List Grammar.Token) : Grammar.AtomAt (.name "n" :: rest) (.var "n") rest := .lower (by decide)
  have parsed : Grammar.parse "f :: Monad m => m (n a)" =
      .ok ⟨"f", [⟨"Monad", "m"⟩], .constrained "m" [.constrained "n" [.var "a"]]⟩ :=
    Grammar.parse_eq_ok_iff.mpr ⟨[.name "f", .symbol "::", .name "Monad", .name "m", .symbol "=>", .name "m",
        .opening .round, .name "n", .name "a", .closing .round], by rfl,
      .constrained (.single (.mk (by decide) (by decide)))
        (.single (.lower (m _) (.more (.bracketed (.single (.lower (n _) (.more (a _) .none)))) .none)))⟩
  have parsed' : Grammar.parse "f :: Monad m => m n a" =
      .ok ⟨"f", [⟨"Monad", "m"⟩], .constrained "m" [.var "n", .var "a"]⟩ :=
    Grammar.parse_eq_ok_iff.mpr ⟨[.name "f", .symbol "::", .name "Monad", .name "m", .symbol "=>", .name "m",
        .name "n", .name "a"], by rfl,
      .constrained (.single (.mk (by decide) (by decide)))
        (.single (.lower (m _) (.more (n _) (.more (a _) .none))))⟩
  have started : logging Config.load ⟨[], .empty, Builtin.firstFree⟩ true = .ok true := rfl
  obtain ⟨report, report', shown, shown', -, -, same, -⟩ :=
    output_eq_iff Reader.documented_standard started .short parsed parsed'
  exact ⟨report, report', shown, shown', fun alike => nomatch same.mp alike⟩

end HMSignature.CommandLine
