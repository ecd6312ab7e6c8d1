import HMSignature.Descriptor.Text
import HMSignature.Proofs.Descriptor.Construct
/-!
# Function types, in three ways

A function type is built from all its types at once, from a tuple of inputs and an output, or by single arrows that
associate to the right. At different moments the three ask for the type that something stands for, but always of the
same operands, so they succeed together; what fails is always an operator without its parameters.

Results:
1. `Descriptor.stands_or_incomplete`: what cannot stand for a type, and the errors for it;
2. `Descriptor.abstraction_eq_arrows`, `Descriptor.abstraction_eq_foldlM`: single arrows and the tuple;
3. `Descriptor.functionType_append`: a function type as the output of another one;
4. `Ty.follow?_arrows`: the types that a function type is made of can be read off again;
5. `Descriptor.function_ways_agree`: all of it.
-/

namespace HMSignature

/-! ## What does not stand for a type -/

/-- The errors about parameters: an operator has too many slots, is given another number, or is given none. -/
def BuildError.isOfParameters : BuildError → Bool
  | tooManySlots _ | wrongCount _ _ _ | needsParameters _ => true
  | _ => false

namespace Descriptor

variable {ds inputs : List Descriptor} {d output : Descriptor} {t : Ty} {e : BuildError}

/-- An operator that does not stand for a type: it has slots, or it is a variable. -/
def Incomplete (d : Descriptor) : Prop :=
  ∃ op, d = .operator op ∧ (0 < op.arity ∨ ∃ name slots bound, op = .var name slots bound)

theorem stands_or_incomplete (d : Descriptor) :
    (¬d.Incomplete ∧ d.Stands) ∨ (d.Incomplete ∧ ∃ e, d.toTy = .error e ∧ e.isOfParameters = true) := by
  cases d with
  | type t => exact .inl ⟨nofun, stands_type t⟩
  | operator op =>
    cases op with
    | var name slots bound => exact .inr ⟨⟨_, rfl, .inr ⟨name, slots, bound, rfl⟩⟩, _, rfl, rfl⟩
    | constructor c =>
      rcases Nat.eq_zero_or_pos c.extractors.length with none | some
      · refine .inl ⟨?_, _, toTy_eq_ok_iff.mpr (.inr ⟨c, rfl, none, rfl⟩)⟩
        rintro ⟨op, same, slots | ⟨_, _, _, rfl⟩⟩
        · cases same
          exact absurd none (Nat.ne_of_gt slots)
        · cases same
      · refine .inr ⟨⟨_, rfl, .inl some⟩, _, if_neg (Nat.ne_of_lt some), rfl⟩

theorem stands_iff : d.Stands ↔ ¬d.Incomplete := by
  rcases stands_or_incomplete d with ⟨complete, stands⟩ | ⟨incomplete, e, fails, -⟩
  · exact iff_of_true stands complete
  · refine iff_of_false ?_ (not_not_intro incomplete)
    rintro ⟨t, stands⟩
    rw [stands] at fails
    cases fails

theorem isOfParameters_of_toTy (fails : d.toTy = .error e) : e.isOfParameters = true := by
  rcases stands_or_incomplete d with ⟨-, t, stands⟩ | ⟨-, e', fails', parameters⟩
  · rw [stands] at fails
    cases fails
  · rw [fails'] at fails
    cases fails
    exact parameters

theorem stands_of_toTys {ts : List Ty} (stands : toTys ds = .ok ts) : ∀ d ∈ ds, d.Stands := by
  induction ds generalizing ts with
  | nil => exact List.forall_mem_nil _
  | cons d rest ih =>
    obtain ⟨t, others, first, hothers, -⟩ := toTys_cons_eq_ok_iff.mp stands
    exact List.forall_mem_cons.mpr ⟨⟨t, first⟩, ih hothers⟩

theorem toTys_concat {is : List Ty} {o : Ty} (hinputs : toTys inputs = .ok is) (last : output.toTy = .ok o) :
    toTys (inputs ++ [output]) = .ok (is ++ [o]) :=
  toTys_append_eq_ok_iff.mpr ⟨is, [o], hinputs, toTys_singleton_eq_ok_iff.mpr ⟨o, last, rfl⟩, rfl⟩

/-- A way to build a type that asks each of its operands for the type it stands for, and fails as one of them does. -/
theorem fails_of_incomplete {way : Except BuildError Ty} (incomplete : ∃ d ∈ ds, d.Incomplete)
    (succeeds : ∀ t, way = .ok t → ∃ ts, toTys ds = .ok ts)
    (fails : ∀ e, way = .error e → ∃ d ∈ ds, d.toTy = .error e) :
    ∃ e, way = .error e ∧ e.isOfParameters = true := by
  obtain ⟨d, member, hd⟩ := incomplete
  cases way with
  | ok t =>
    obtain ⟨ts, stands⟩ := succeeds t rfl
    exact absurd hd (stands_iff.mp (stands_of_toTys stands d member))
  | error e =>
    obtain ⟨d', -, fails'⟩ := fails e rfl
    exact ⟨e, rfl, isOfParameters_of_toTy fails'⟩

/-! ## Where the ways fail -/

theorem exists_of_toTys_eq_error (h : toTys ds = .error e) : ∃ d ∈ ds, d.toTy = .error e := by
  induction ds with
  | nil => cases h
  | cons d rest ih =>
    rcases bind_eq_error_iff.mp h with fails | ⟨t, -, h'⟩
    · exact ⟨d, List.mem_cons_self, fails⟩
    rcases bind_eq_error_iff.mp h' with fails | ⟨ts, -, h''⟩
    · obtain ⟨d', member, fails'⟩ := ih fails
      exact ⟨d', List.mem_cons_of_mem d member, fails'⟩
    · cases h''

theorem exists_of_functionType_eq_error (nonempty : ds ≠ []) (h : functionType ds = .error e) :
    ∃ d ∈ ds, d.toTy = .error e := by
  rcases bind_eq_error_iff.mp h with fails | ⟨ts, stands, h'⟩
  · exact exists_of_toTys_eq_error fails
  · split at h'
    · rename_i empty
      rw [List.reverse_eq_nil_iff] at empty
      subst empty
      exact absurd (List.length_eq_zero_iff.mp (length_of_toTys stands).symm) nonempty
    · cases h'

theorem toTy_of_arrow_eq_error (h : arrow d output = .error e) : d.toTy = .error e ∨ output.toTy = .error e := by
  rcases bind_eq_error_iff.mp h with fails | ⟨i, -, h'⟩
  · exact .inl fails
  rcases bind_eq_error_iff.mp h' with fails | ⟨o, -, h''⟩
  · exact .inr fails
  · cases h''

theorem exists_of_arrows_eq_error (h : arrows inputs output = .error e) :
    ∃ d ∈ inputs ++ [output], d.toTy = .error e := by
  induction inputs with
  | nil => exact ⟨output, List.mem_singleton_self output, h⟩
  | cons input rest ih =>
    cases rest with
    | nil =>
      rcases toTy_of_arrow_eq_error h with fails | fails
      · exact ⟨input, List.mem_cons_self, fails⟩
      · exact ⟨output, by simp, fails⟩
    | cons next rest =>
      rcases bind_eq_error_iff.mp h with fails | ⟨inner, -, h'⟩
      · obtain ⟨d, member, fails'⟩ := ih fails
        exact ⟨d, List.mem_cons_of_mem input member, fails'⟩
      · rcases toTy_of_arrow_eq_error h' with fails | fails
        · exact ⟨input, List.mem_cons_self, fails⟩
        · cases fails

/-! ## What the ways give -/

theorem arrow_eq_ok_iff : arrow d output = .ok t ↔ ∃ i o, d.toTy = .ok i ∧ output.toTy = .ok o ∧ t = .arrow i o :=
  bind_bind_eq_ok_iff

/-- The last input is joined to the output itself, and the ones before it to what has become of that. -/
theorem arrows_cons_cons (input next : Descriptor) (rest : List Descriptor) (output : Descriptor) :
    arrows (input :: next :: rest) output = (do
      let inner ← arrows (next :: rest) output
      arrow input (.type inner)) :=
  rfl

theorem arrows_eq_ok_iff :
    arrows inputs output = .ok t ↔ ∃ is o, toTys inputs = .ok is ∧ output.toTy = .ok o ∧ t = .arrows is o := by
  induction inputs generalizing t with
  | nil =>
    constructor
    · intro h
      exact ⟨[], t, rfl, h, rfl⟩
    · rintro ⟨is, o, none, stands, rfl⟩
      cases none
      exact stands
  | cons input rest ih =>
    have step : arrows (input :: rest) output = .ok t ↔
        ∃ i inner, input.toTy = .ok i ∧ arrows rest output = .ok inner ∧ t = .arrow i inner := by
      cases rest with
      | nil => exact arrow_eq_ok_iff
      | cons next rest =>
        rw [arrows_cons_cons, bind_eq_ok_iff]
        constructor
        · rintro ⟨inner, h, h'⟩
          obtain ⟨i, o, stands, same, rfl⟩ := arrow_eq_ok_iff.mp h'
          cases same
          exact ⟨i, inner, stands, h, rfl⟩
        · rintro ⟨i, inner, stands, h, rfl⟩
          exact ⟨inner, h, arrow_eq_ok_iff.mpr ⟨i, inner, stands, rfl, rfl⟩⟩
    rw [step]
    constructor
    · rintro ⟨i, inner, first, h, rfl⟩
      obtain ⟨is, o, others, last, rfl⟩ := ih.mp h
      exact ⟨i :: is, o, toTys_cons_eq_ok_iff.mpr ⟨i, is, first, others, rfl⟩, last, rfl⟩
    · rintro ⟨is, o, stands, last, rfl⟩
      obtain ⟨i, is', first, others, rfl⟩ := toTys_cons_eq_ok_iff.mp stands
      exact ⟨i, .arrows is' o, first, ih.mpr ⟨is', o, others, last, rfl⟩, rfl⟩

/-- Inputs and an output joined by single arrows, the innermost one first. -/
def abstraction : List Descriptor → Descriptor → Except BuildError Descriptor
  | [], output => .ok output
  | input :: rest, output => do
      let inner ← abstraction rest output
      type <$> arrow input inner

/-- From one input on, single arrows make the type that the tuple makes. -/
theorem abstraction_cons (input : Descriptor) (rest : List Descriptor) (output : Descriptor) :
    abstraction (input :: rest) output = type <$> arrows (input :: rest) output := by
  induction rest generalizing input with
  | nil => rfl
  | cons next rest ih =>
    rw [abstraction, ih, arrows_cons_cons]
    cases arrows (next :: rest) output <;> rfl

theorem abstraction_eq_arrows (inputs : List Descriptor) (output : Descriptor) :
    abstraction inputs output >>= toTy = arrows inputs output := by
  cases inputs with
  | nil => rfl
  | cons input rest =>
    rw [abstraction_cons]
    cases arrows (input :: rest) output <;> rfl

/-- The tuple goes through its inputs from the last one on, with what it has so far on the right of the next arrow. -/
theorem abstraction_eq_foldlM (inputs : List Descriptor) (output : Descriptor) :
    abstraction inputs output = inputs.reverse.foldlM (fun inner input => type <$> arrow input inner) output := by
  induction inputs with
  | nil => rfl
  | cons input rest ih =>
    rw [abstraction, ih, List.reverse_cons, List.foldlM_append]
    simp only [List.foldlM_cons, List.foldlM_nil, bind_pure]

/-- A function type as the output of another one continues its inputs. -/
theorem functionType_append {front : List Descriptor} (nonempty : ds ≠ []) (all : ∀ d ∈ front ++ ds, d.Stands) :
    ∃ inner whole, functionType ds = .ok inner ∧ functionType (front ++ [.type inner]) = .ok whole ∧
      functionType (front ++ ds) = .ok whole := by
  obtain ⟨inputs, output, rfl⟩ : ∃ inputs output, ds = inputs ++ [output] :=
    ⟨_, _, (List.dropLast_concat_getLast nonempty).symm⟩
  rw [List.forall_mem_append, List.forall_mem_append, List.forall_mem_singleton] at all
  obtain ⟨allFront, allInputs, o, last⟩ := all
  obtain ⟨fs, hfront⟩ := exists_toTys allFront
  obtain ⟨is, hinputs⟩ := exists_toTys allInputs
  refine ⟨.arrows is o, .arrows fs (.arrows is o), ?_, ?_, ?_⟩
  · exact functionType_concat_eq_ok_iff.mpr ⟨is, o, hinputs, last, rfl⟩
  · exact functionType_concat_eq_ok_iff.mpr ⟨fs, _, hfront, rfl, rfl⟩
  · rw [← List.append_assoc]
    refine functionType_concat_eq_ok_iff.mpr ⟨fs ++ is, o, ?_, last, List.foldr_append.symm⟩
    exact toTys_append_eq_ok_iff.mpr ⟨fs, is, hfront, hinputs, rfl⟩

end Descriptor

/-! ## Reading the types off again -/

/-- The inputs of a function type, as many as are asked for, and what is the output then. -/
def Ty.follow? : Nat → Ty → Option (List Ty)
  | 0, t => some [t]
  | n + 1, .operation op [input, output] => if op.isArrow then (input :: ·) <$> output.follow? n else none
  | _ + 1, _ => none

theorem Ty.follow?_arrows (inputs : List Ty) (output : Ty) :
    (Ty.arrows inputs output).follow? inputs.length = some (inputs ++ [output]) := by
  induction inputs with
  | nil => rfl
  | cons input rest ih =>
    have step : (Ty.arrows (input :: rest) output).follow? (rest.length + 1) =
        (input :: ·) <$> (Ty.arrows rest output).follow? rest.length := rfl
    rw [List.length_cons, step, ih]
    rfl

namespace Descriptor

/-- The function type of a sequence of types, its last one abstracted from the others arrow by arrow, and the tuple of
the others to the last one: either an operator in the sequence does not stand for a type, and all three fail with an
error about parameters, or they are one type whose inputs and output are the types that the sequence stands for. And
whatever stands in front of a sequence, its function type can take its place. -/
theorem function_ways_agree (inputs : List Descriptor) (output : Descriptor) :
    let types := inputs ++ [output]
    let ways := [functionType types, abstraction inputs output >>= toTy, arrows inputs output]
    (((∃ d ∈ types, d.Incomplete) ∧ ∀ way ∈ ways, ∃ e, way = .error e ∧ e.isOfParameters = true) ∨
      ((∀ d ∈ types, ¬d.Incomplete) ∧ ∃ t instances, (∀ way ∈ ways, way = .ok t) ∧ toTys types = .ok instances ∧
        t.follow? inputs.length = some instances)) ∧
      ∀ front, (∀ d ∈ front ++ types, ¬d.Incomplete) →
        ∃ inner whole, functionType types = .ok inner ∧ functionType (front ++ [.type inner]) = .ok whole ∧
          functionType (front ++ types) = .ok whole := by
  intro types ways
  have nonempty : types ≠ [] := List.append_ne_nil_of_right_ne_nil _ (List.cons_ne_nil _ _)
  refine ⟨?_, fun front complete => functionType_append nonempty fun d member => stands_iff.mpr (complete d member)⟩
  -- The tuple is what single arrows make, so that there are two ways to look at.
  have each {p : Except BuildError Ty → Prop} (whole : p (functionType types)) (tuple : p (arrows inputs output)) :
      ∀ way ∈ ways, p way := by
    have single : p (abstraction inputs output >>= toTy) := by
      rw [abstraction_eq_arrows]
      exact tuple
    exact List.forall_mem_cons.mpr ⟨whole, List.forall_mem_cons.mpr ⟨single, List.forall_mem_singleton.mpr tuple⟩⟩
  by_cases incomplete : ∃ d ∈ types, d.Incomplete
  · refine .inl ⟨incomplete, each ?_ ?_⟩
    · refine fails_of_incomplete incomplete (fun t h => ?_) fun e => exists_of_functionType_eq_error nonempty
      obtain ⟨is, o, stands, -⟩ := functionType_eq_ok_iff.mp h
      exact ⟨_, stands⟩
    · refine fails_of_incomplete incomplete (fun t h => ?_) fun e => exists_of_arrows_eq_error
      obtain ⟨is, o, hinputs, last, -⟩ := arrows_eq_ok_iff.mp h
      exact ⟨is ++ [o], toTys_concat hinputs last⟩
  · have complete : ∀ d ∈ types, ¬d.Incomplete := fun d member h => incomplete ⟨d, member, h⟩
    refine .inr ⟨complete, ?_⟩
    obtain ⟨t, whole⟩ := exists_functionType (fun d member => stands_iff.mpr (complete d member)) nonempty
    obtain ⟨is, o, hinputs, last, rfl⟩ := functionType_concat_eq_ok_iff.mp whole
    refine ⟨.arrows is o, is ++ [o], each whole (arrows_eq_ok_iff.mpr ⟨is, o, hinputs, last, rfl⟩), ?_, ?_⟩
    · exact toTys_concat hinputs last
    · rw [← length_of_toTys hinputs]
      exact Ty.follow?_arrows is o

/-- Functions of a number and a text: behind a date they go on, and a list of no elements is not among their inputs. -/
theorem function_ways_agree_date :
    let number : Descriptor := .operator (.constructor Builtin.number)
    let text : Descriptor := .operator (.constructor Builtin.text)
    let boolean : Descriptor := .operator (.constructor Builtin.boolean)
    let date : Descriptor := .operator (.constructor Builtin.date)
    let list : Descriptor := .operator (.constructor Builtin.array)
    (∃ t, functionType [number, text, boolean] = .ok t ∧ (abstraction [number, text] boolean >>= toTy) = .ok t ∧
        arrows [number, text] boolean = .ok t) ∧
      (∃ inner whole, functionType [number, text, boolean] = .ok inner ∧ functionType [date, .type inner] = .ok whole ∧
        functionType [date, number, text, boolean] = .ok whole) ∧
      ∃ e, (abstraction [number, list] boolean >>= toTy) = .error e ∧ e.isOfParameters = true := by
  intro number text boolean date list
  have complete {c : Constructor} (none : c.extractors.length = 0) : ¬Incomplete (.operator (.constructor c)) :=
    stands_iff.mp ⟨_, toTy_eq_ok_iff.mpr (.inr ⟨c, rfl, none, rfl⟩)⟩
  have all : ∀ d ∈ [date, number, text, boolean], ¬d.Incomplete := by
    simp only [List.forall_mem_cons]
    exact ⟨complete rfl, complete rfl, complete rfl, complete rfl, nofun⟩
  refine ⟨?_, (function_ways_agree [number, text] boolean).2 [date] all, ?_⟩
  · rcases (function_ways_agree [number, text] boolean).1 with ⟨⟨d, member, incomplete⟩, -⟩ | ⟨-, t, -, same, -, -⟩
    · exact absurd incomplete (all d (List.mem_cons_of_mem date member))
    · exact ⟨t, same _ (by simp), same _ (by simp), same _ (by simp)⟩
  · rcases (function_ways_agree [number, list] boolean).1 with ⟨-, fails⟩ | ⟨complete', -⟩
    · exact fails _ (by simp)
    · exact absurd ⟨_, rfl, .inl (by decide)⟩ (complete' list (by simp))

end Descriptor

end HMSignature
