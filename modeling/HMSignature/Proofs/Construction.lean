import HMSignature.Descriptor.Expression
import HMSignature.Proofs.Descriptor.Saturation
import HMSignature.Proofs.Resolution.Sharing
import HMSignature.Proofs.Resolution.Translation
/-!
# Everything that can be constructed

Operators are made from nothing, and further descriptors from those that are there already: by an application, as a
function or as a record, by asking for the type that a descriptor stands for, and by resolving signatures in an
environment. However long this goes on, everything that is inherited holds of all types that are constructed, and so
they are saturated.

Results:
1. `Ty.Inherited.has_of_constructed`: what each way preserves, all of them together preserve;
2. `Expression.constructed_of_eval`, `Expression.constructed_of_bindAll`: expressions build nothing else;
3. `Descriptor.constructed_saturated`: what is constructed is saturated, and when a step of construction fails.
-/

namespace HMSignature

/-- What can be constructed, by any number of steps none of which fails:

* `constructor`, `variableOperator`, `var`: operators and type variables;
* `applied`: an operator applied to parameters;
* `arrow`, `arrows`, `functionType`: functions, by single arrows, from a tuple of inputs and from a sequence of types;
* `record`: a record of fields and keyword fields;
* `standing`: the type that a descriptor stands for;
* `signature`: the types of a signature, in an environment of what was constructed before;
* `call`: what a resolver gives for a tree, after any calls, with what it remembers from them. -/
inductive Descriptor.Constructed : Descriptor → Prop
  | constructor {id : Nat} {name url : String} {test : Datum → Datum} {slots : Slots} {c : Constructor} :
      Constructor.make id name url test slots.toList = .ok c → Constructed (.operator (.constructor c))
  | variableOperator {name : String} {slots : Int} {op : Operator} :
      Operator.makeVar name slots = .ok op → Constructed (.operator op)
  | var (name : String) : Constructed (.type (.var name))
  | applied {head d : Descriptor} {params : List Descriptor} :
      Constructed head → (∀ param ∈ params, Constructed param) → head.applyTo params = .ok d → Constructed d
  | arrow {input output : Descriptor} {t : Ty} :
      Constructed input → Constructed output → Descriptor.arrow input output = .ok t → Constructed (.type t)
  | arrows {inputs : List Descriptor} {output : Descriptor} {t : Ty} :
      (∀ input ∈ inputs, Constructed input) → Constructed output → Descriptor.arrows inputs output = .ok t →
      Constructed (.type t)
  | functionType {ds : List Descriptor} {t : Ty} :
      (∀ d ∈ ds, Constructed d) → Descriptor.functionType ds = .ok t → Constructed (.type t)
  | record {fields keywords : List (String × Descriptor)} {d : Descriptor} :
      (∀ field ∈ fields, Constructed field.2) → (∀ field ∈ keywords, Constructed field.2) →
      recordWith fields keywords = .ok d → Constructed d
  | standing {d : Descriptor} {t : Ty} : Constructed d → d.toTy = .ok t → Constructed (.type t)
  | signature {classes : List TypeClass} {environment : List Descriptor} {text : String} {resolution : Resolution}
      {d : Descriptor} :
      (∀ item ∈ environment, Constructed item) → Resolution.ofText classes environment text = .ok resolution →
      d ∈ resolution.types → Constructed d
  | call {environment ds : List Descriptor} {before : List Resolver.Call} {call : Resolver.Call} {d : Descriptor} :
      (∀ item ∈ environment, Constructed item) →
      ((call.step (Environment.types environment)).run
        (Resolver.memoryAfter (Environment.types environment) .empty before)).1 = .ok ds →
      d ∈ ds → Constructed d

/-- Every operator can be made from its own parts, the built-in ones as well. -/
theorem Descriptor.constructed_operator (op : Operator) : (operator op).Constructed := by
  cases op with
  | constructor c =>
    have made : Constructor.make c.id c.name c.url c.test (Slots.extractors c.extractors).toList = .ok c :=
      dif_pos c.arity_le
    exact .constructor made
  | var name arity bound =>
    have made : Operator.makeVar name arity = .ok (.var name arity bound) := dif_pos bound
    exact .variableOperator made

/-! ## What is inherited -/

namespace Ty.Inherited

variable {P : Ty → Prop} (inherited : Inherited P)

include inherited

theorem of_functionType {ds : List Descriptor} {t : Ty} (all : ∀ d ∈ ds, d.Has P)
    (built : Descriptor.functionType ds = .ok t) : P t := by
  obtain ⟨inputs, output, stands, rfl⟩ := Descriptor.functionType_eq_ok_iff.mp built
  have parts := inherited.of_toTys all stands
  rw [List.forall_mem_append, List.forall_mem_singleton] at parts
  exact inherited.arrows parts.1 parts.2

theorem of_arrows {inputs : List Descriptor} {output : Descriptor} {t : Ty} (all : ∀ d ∈ inputs, d.Has P)
    (last : output.Has P) (built : Descriptor.arrows inputs output = .ok t) : P t := by
  obtain ⟨is, o, hinputs, houtput, rfl⟩ := Descriptor.arrows_eq_ok_iff.mp built
  exact inherited.arrows (inherited.of_toTys all hinputs) (inherited.of_toTy last houtput)

theorem has_of_applyTo {head d : Descriptor} {params : List Descriptor} (all : ∀ param ∈ params, param.Has P)
    (built : head.applyTo params = .ok d) : d.Has P := by
  cases head with
  | operator op =>
    obtain ⟨t, applied, rfl⟩ := map_eq_ok_iff.mp built
    exact inherited.of_apply all applied
  | type t => cases built

/-- Keyword fields are written behind the other fields. -/
theorem has_of_recordWith {fields keywords : List (String × Descriptor)} {d : Descriptor}
    (all : ∀ field ∈ fields, field.2.Has P) (others : ∀ field ∈ keywords, field.2.Has P)
    (built : Descriptor.recordWith fields keywords = .ok d) : d.Has P := by
  rw [Descriptor.recordWith, ← Table.ofList_append] at built
  split at built
  · cases built
  · obtain ⟨t, record, rfl⟩ := map_eq_ok_iff.mp built
    exact inherited.of_record (List.forall_mem_append.mpr ⟨all, others⟩) record

theorem has_of_ofText {classes : List TypeClass} {environment : List Descriptor} {text : String}
    {resolution : Resolution} (all : ∀ item ∈ environment, item.Has P)
    (resolved : Resolution.ofText classes environment text = .ok resolution) : ∀ d ∈ resolution.types, d.Has P := by
  cases parsed : Grammar.parse text with
  | error e =>
    rw [Resolution.ofText_of_parse_error parsed] at resolved
    cases resolved
  | ok s =>
    obtain ⟨-, types, -⟩ := (Resolution.ofText_eq_ok_iff parsed).mp resolved
    exact Resolver.has_of_resolveAll inherited (Resolver.itemsHave_types all) types

theorem has_of_constructed {d : Descriptor} (constructed : d.Constructed) : d.Has P := by
  induction constructed with
  | constructor _ => trivial
  | variableOperator _ => trivial
  | var name => exact inherited.var name
  | applied _ _ built _ all => exact inherited.has_of_applyTo all built
  | arrow _ _ built first last => exact inherited.of_arrows (List.forall_mem_singleton.mpr first) last built
  | arrows _ _ built all last => exact inherited.of_arrows all last built
  | functionType _ built all => exact inherited.of_functionType all built
  | record _ _ built all others => exact inherited.has_of_recordWith all others built
  | standing _ stands has => exact inherited.of_toTy has stands
  | signature _ resolved member all => exact inherited.has_of_ofText all resolved _ member
  | @call environment ds before call d _ gives member all =>
    -- What the resolver remembers does not show, so that its first call is like any other.
    have faithful := Resolver.faithful_memoryAfter (Environment.types environment) Resolver.faithful_empty before
    rw [(Resolver.transparent_step _ call _ faithful).1] at gives
    exact Resolver.has_of_step inherited (Resolver.itemsHave_types all) gives d member

end Ty.Inherited

/-! ## Expressions -/

namespace Build

variable {α β : Type} {id id' : Nat}

theorem run_bind_eq_ok_iff {step : Build α} {next : α → Build β} {result : β × Nat} :
    (step >>= next).run id = .ok result ↔
      ∃ a id', step.run id = .ok (a, id') ∧ (next a).run id' = .ok result := by
  rw [StateT.run_bind, bind_eq_ok_iff, Prod.exists]

theorem run_lift_eq_ok_iff {outcome : Except BuildError α} {a : α} :
    (Build.lift outcome).run id = .ok (a, id') ↔ outcome = .ok a ∧ id' = id := by
  cases outcome with
  | error e => exact ⟨nofun, nofun⟩
  | ok b =>
    show Except.ok (b, id) = Except.ok (a, id') ↔ _
    rw [ok_eq_ok_iff, ok_eq_ok_iff, Prod.mk.injEq]

/-- The type of a building step that needs no identity. -/
theorem exists_of_run_type {outcome : Except BuildError Ty} {d : Descriptor}
    (h : (do return Descriptor.type (← Build.lift outcome) : Build Descriptor).run id = .ok (d, id')) :
    ∃ t, outcome = .ok t ∧ d = .type t := by
  obtain ⟨t, _, built, h⟩ := run_bind_eq_ok_iff.mp h
  cases h
  exact ⟨t, (run_lift_eq_ok_iff.mp built).1, rfl⟩

end Build

/-- Every name of a scope is bound to something that was constructed. -/
def Scope.Constructed (scope : Scope) : Prop :=
  ∀ entry ∈ scope, entry.2.Constructed

namespace Expression

open Build (run_bind_eq_ok_iff run_lift_eq_ok_iff exists_of_run_type)

variable {scope : Scope}

theorem constructed_of_find (sound : scope.Constructed) {name : String} {d : Descriptor}
    (found : scope.find name = .ok d) : d.Constructed := by
  rw [Scope.find] at found
  split at found
  · rename_i bound
    cases found
    exact sound _ (Table.mem_of_get? bound)
  · split at found
    · cases found
      exact Descriptor.constructed_operator _
    · cases found

mutual

theorem constructed_of_eval (sound : scope.Constructed) {e : Expression} {id id' : Nat} {d : Descriptor}
    (h : (eval scope e).run id = .ok (d, id')) : d.Constructed := by
  match e with
  | named name =>
    rw [eval] at h
    exact constructed_of_find sound (run_lift_eq_ok_iff.mp h).1
  | constructor name url slots =>
    rw [eval] at h
    obtain ⟨_, _, -, h⟩ := run_bind_eq_ok_iff.mp h
    obtain ⟨c, _, -, h⟩ := run_bind_eq_ok_iff.mp h
    cases h
    exact Descriptor.constructed_operator _
  | var name =>
    rw [eval] at h
    cases h
    exact .var name
  | variableOperator name slots =>
    rw [eval] at h
    obtain ⟨op, _, -, h⟩ := run_bind_eq_ok_iff.mp h
    cases h
    exact Descriptor.constructed_operator op
  | apply op args =>
    rw [eval] at h
    obtain ⟨head, _, hhead, h⟩ := run_bind_eq_ok_iff.mp h
    obtain ⟨params, _, hparams, h⟩ := run_bind_eq_ok_iff.mp h
    exact .applied (constructed_of_eval sound hhead) (constructed_of_evalAll sound hparams)
      (run_lift_eq_ok_iff.mp h).1
  | record fields keywords =>
    rw [eval] at h
    obtain ⟨_, _, hfields, h⟩ := run_bind_eq_ok_iff.mp h
    obtain ⟨_, _, hkeywords, h⟩ := run_bind_eq_ok_iff.mp h
    exact .record (constructed_of_evalFields sound hfields) (constructed_of_evalFields sound hkeywords)
      (run_lift_eq_ok_iff.mp h).1
  | arrow input output =>
    rw [eval] at h
    obtain ⟨i, _, hinput, h⟩ := run_bind_eq_ok_iff.mp h
    obtain ⟨o, _, houtput, h⟩ := run_bind_eq_ok_iff.mp h
    obtain ⟨t, built, rfl⟩ := exists_of_run_type h
    exact .arrow (constructed_of_eval sound hinput) (constructed_of_eval sound houtput) built
  | arrowTo output input =>
    rw [eval] at h
    obtain ⟨o, _, houtput, h⟩ := run_bind_eq_ok_iff.mp h
    obtain ⟨i, _, hinput, h⟩ := run_bind_eq_ok_iff.mp h
    obtain ⟨t, built, rfl⟩ := exists_of_run_type h
    exact .arrow (constructed_of_eval sound hinput) (constructed_of_eval sound houtput) built
  | arrows inputs output =>
    rw [eval] at h
    obtain ⟨is, _, hinputs, h⟩ := run_bind_eq_ok_iff.mp h
    obtain ⟨o, _, houtput, h⟩ := run_bind_eq_ok_iff.mp h
    obtain ⟨t, built, rfl⟩ := exists_of_run_type h
    exact .arrows (constructed_of_evalAll sound hinputs) (constructed_of_eval sound houtput) built
  | functionType types =>
    rw [eval] at h
    obtain ⟨ts, _, htypes, h⟩ := run_bind_eq_ok_iff.mp h
    obtain ⟨t, built, rfl⟩ := exists_of_run_type h
    exact .functionType (constructed_of_evalAll sound htypes) built
  | standing e =>
    rw [eval] at h
    obtain ⟨d', _, hd, h⟩ := run_bind_eq_ok_iff.mp h
    obtain ⟨t, stands, rfl⟩ := exists_of_run_type h
    exact .standing (constructed_of_eval sound hd) stands
termination_by sizeOf e

theorem constructed_of_evalAll (sound : scope.Constructed) {es : List Expression} {id id' : Nat}
    {ds : List Descriptor} (h : (evalAll scope es).run id = .ok (ds, id')) : ∀ d ∈ ds, d.Constructed := by
  match es with
  | [] =>
    cases h
    exact List.forall_mem_nil _
  | e :: rest =>
    rw [evalAll] at h
    obtain ⟨d, _, first, h⟩ := run_bind_eq_ok_iff.mp h
    obtain ⟨others, _, hothers, h⟩ := run_bind_eq_ok_iff.mp h
    cases h
    exact List.forall_mem_cons.mpr ⟨constructed_of_eval sound first, constructed_of_evalAll sound hothers⟩
termination_by sizeOf es

theorem constructed_of_evalFields (sound : scope.Constructed) {es : List (String × Expression)} {id id' : Nat}
    {fields : List (String × Descriptor)} (h : (evalFields scope es).run id = .ok (fields, id')) :
    ∀ field ∈ fields, field.2.Constructed := by
  match es with
  | [] =>
    cases h
    exact List.forall_mem_nil _
  | (name, e) :: rest =>
    rw [evalFields] at h
    obtain ⟨d, _, first, h⟩ := run_bind_eq_ok_iff.mp h
    obtain ⟨others, _, hothers, h⟩ := run_bind_eq_ok_iff.mp h
    cases h
    exact List.forall_mem_cons.mpr ⟨constructed_of_eval sound first, constructed_of_evalFields sound hothers⟩
termination_by sizeOf es

end

/-- Binding names one after the other, each to what is built from those before it, binds them to what is
constructed. -/
theorem constructed_of_bindAll (sound : scope.Constructed) {bindings : List (String × Expression)} {id id' : Nat}
    {after : Scope} (h : (bindAll scope bindings).run id = .ok (after, id')) : after.Constructed := by
  induction bindings generalizing scope id with
  | nil =>
    cases h
    exact sound
  | cons binding rest ih =>
    obtain ⟨d, _, first, h⟩ := run_bind_eq_ok_iff.mp h
    refine ih ?_ h
    intro entry member
    rcases Table.mem_of_mem_insert member with rfl | known
    · exact constructed_of_eval sound first
    · exact sound entry known

end Expression

/-! ## Saturation -/

namespace Descriptor

/-- Wherever an operator is applied in a type that is constructed, at any depth, it has at most two slots and as many
types in them, and its slots pair each of these types with the name and the extractor of its own slot. An application
puts the types that its parameters stand for into the slots, and it fails with an error about parameters exactly if one
of them does not stand for a type or if there are more or fewer of them than slots. A record has the types that its
fields stand for, and operators with more than two slots cannot be made. -/
theorem constructed_saturated :
    (∀ t : Ty, (type t).Constructed → ∀ (op : Operator) (params : List Ty), Ty.OccursIn (.operation op params) t →
        params.length = op.arity ∧ op.arity ≤ 2 ∧
          ∃ slots, (Ty.operation op params).slots? = some slots ∧ Ty.PairsAll op params slots) ∧
      (∀ (op : Operator) (ds : List Descriptor),
        (∀ t, op.apply ds = .ok t ↔
          ∃ params, List.Forall₂ Ty.IsInstanceOf ds params ∧ params.length = op.arity ∧ t = .operation op params) ∧
        ((∃ e, op.apply ds = .error e ∧ e.isOfParameters = true) ↔
          (∃ d ∈ ds, d.Incomplete) ∨ ds.length ≠ op.arity)) ∧
      (∀ (fields : Table String Descriptor) (t : Ty), record fields = .ok t ↔
        ∃ types, List.Forall₂ Ty.IsInstanceOf (fields.map (·.2)) types ∧ t = .record (fields.keys.zip types)) ∧
      (∀ (id : Nat) (name url : String) (test : Datum → Datum) (slots : Slots),
        (∃ c, Constructor.make id name url test slots.toList = .ok c) ↔ slots.toList.length ≤ 2) ∧
      ∀ (name : String) (slots : Int), (∃ op, Operator.makeVar name slots = .ok op) ↔ slots ≤ 2 := by
  refine ⟨?types, fun op ds => ⟨fun t => ?applied, ?fails⟩, fun fields t => ?record, fun id name url test slots => ?made,
    fun name slots => ?madeVar⟩
  case types =>
    intro t constructed op params occurs
    have saturated : t.Saturated := Ty.inherited_saturated.has_of_constructed constructed
    have filled : params.length = op.arity := saturated op params occurs
    exact ⟨filled, op.arity_le_two, Ty.pairsAll_slots? filled⟩
  case applied => exact Operator.apply_eq_ok_iff_instances
  case fails => exact Operator.apply_fails_iff
  case record => exact record_eq_ok_iff_instances
  case made => exact Constructor.make_succeeds_iff
  case madeVar => exact Operator.makeVar_succeeds_iff

/-- The dictionary of lists in a field of a record, where a resolver gave it that had failed before; and a dictionary of
an operator by itself. -/
theorem constructed_saturated_nested :
    let map : Operator := .constructor Builtin.textMap
    let lists : Ty := .operation map [.array (.var "a")]
    let whole : Ty := .record [("f", .arrow (.operation (.constructor Builtin.number) []) lists)]
    (type whole).Constructed ∧ Ty.OccursIn lists whole ∧ [Ty.array (.var "a")].length = map.arity ∧ map.arity ≤ 2 ∧
      (∃ slots, lists.slots? = some slots ∧ Ty.PairsAll map [.array (.var "a")] slots) ∧
      ∃ e, map.apply [.operator (.constructor Builtin.array)] = .error e ∧ e.isOfParameters = true := by
  intro map lists whole
  have environment : ∀ item ∈ Environment.default, item.Constructed := by
    intro item member
    obtain ⟨c, -, rfl⟩ := List.mem_map.mp member
    exact constructed_operator _
  let call : Resolver.Call := .node (.constructor "StrMap" [.list (.var "a")])
  let failing : Resolver.Call := .param (.constructor "StrMap" [])
  have gives : ((call.step (Environment.types Environment.default)).run
      (Resolver.memoryAfter (Environment.types Environment.default) .empty [failing])).1 = .ok [type lists] := by rfl
  have resolved : (type lists).Constructed := .call environment gives (List.mem_singleton_self _)
  have function : (type (.arrow (.operation (.constructor Builtin.number) []) lists)).Constructed :=
    .arrow (constructed_operator (.constructor Builtin.number)) resolved rfl
  have built : recordWith [("f", type (.arrow (.operation (.constructor Builtin.number) []) lists))] [] =
      .ok (type whole) := by rfl
  have constructed : (type whole).Constructed :=
    .record (List.forall_mem_singleton.mpr function) (List.forall_mem_nil _) built
  have occurs : Ty.OccursIn lists whole := .field (List.mem_singleton_self _) (.param (by simp) .whole)
  obtain ⟨types, applications, -⟩ := constructed_saturated
  obtain ⟨filled, bound, slots⟩ := types whole constructed map _ occurs
  have incomplete : Incomplete (.operator (.constructor Builtin.array)) := ⟨_, rfl, .inl (by decide)⟩
  have fails := (applications map _).2.mpr (.inl ⟨_, List.mem_singleton_self _, incomplete⟩)
  exact ⟨constructed, occurs, filled, bound, slots, fails⟩

end Descriptor

end HMSignature
