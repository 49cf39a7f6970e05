import Mathlib.Data.List.Dedup
import Mathlib.Data.List.Induction
import Phrasebook.Demo.Controllers

/-! Registries in use. Parsers are offered one after the other, and each type keeps the first one that
was offered for it. A text is converted by that parser, else by the built-in conversion, and only a
type that has neither cannot be converted. -/
namespace Phrasebook.Registry

variable {ι : Type} [HostTypes ι] [DecidableEq ι]

/-- A parser that is refused leaves the registry as it was. -/
def offer (r : Registry ι) (p : Parser ι) : Registry ι :=
  match r.add p with
  | .ok next => next
  | .error _ => r

/-- The registry after some offers, refused ones included. -/
def ofOffers (offers : List (Parser ι)) : Registry ι := offers.foldl offer empty

variable {r : Registry ι} {offers ps qs : List (Parser ι)} {p : Parser ι} {t : ValueType ι}

section Find

theorem find?_append : find? t (ps ++ qs) = (find? t ps).or (find? t qs) := by
  induction ps with
  | nil => rfl
  | cons p ps ih =>
    by_cases same : p.type = t
    · simp [find?, same]
    · simpa [find?, same] using ih

theorem find?_isSome_iff : (find? t ps).isSome ↔ t ∈ ps.map (·.type) := by
  induction ps with
  | nil => simp [find?]
  | cons p ps ih =>
    by_cases same : p.type = t
    · simp [find?, same]
    · simp [find?, same, ih, Ne.symm same]

theorem find?_eq_none_iff : find? t ps = none ↔ t ∉ ps.map (·.type) := by
  rw [← find?_isSome_iff, Option.not_isSome_iff_eq_none]

/-- Nothing offered later can be found in the place of the first parser for a type. -/
theorem find?_first (first : p.type ∉ ps.map (·.type)) :
    find? p.type (ps ++ p :: qs) = some p.parse := by
  rw [find?_append, find?_eq_none_iff.2 first]
  simp [find?]

end Find

theorem add_eq (r : Registry ι) (p : Parser ι) :
    r.add p = if p.type ∈ r.parsers.map (·.type) then .error (.duplicateParser p.type.name)
      else .ok ⟨r.parsers ++ [p]⟩ := by
  unfold add contains parser?
  simp only [find?_isSome_iff]

/-- The registry finds the parser that was offered first, and holds one parser for a type. -/
structure Collected (r : Registry ι) (offers : List (Parser ι)) : Prop where
  found : ∀ t, r.parser? t = find? t offers
  distinct : (r.parsers.map (·.type)).Nodup

theorem empty_collected : Collected (empty : Registry ι) [] := ⟨fun _ => rfl, .nil⟩

theorem Collected.mem_types_iff (h : Collected r offers) :
    t ∈ r.parsers.map (·.type) ↔ t ∈ offers.map (·.type) := by
  rw [← find?_isSome_iff, ← find?_isSome_iff, ← h.found t, parser?]

theorem Collected.offer_taken (h : Collected r offers) (taken : p.type ∈ offers.map (·.type)) :
    r.offer p = r := by
  rw [offer, add_eq, if_pos (h.mem_types_iff.2 taken)]

theorem Collected.offer_new (h : Collected r offers) (new : p.type ∉ offers.map (·.type)) :
    r.offer p = ⟨r.parsers ++ [p]⟩ := by
  rw [offer, add_eq, if_neg (mt h.mem_types_iff.1 new)]

theorem Collected.offer (h : Collected r offers) (p : Parser ι) :
    Collected (r.offer p) (offers ++ [p]) := by
  by_cases taken : p.type ∈ offers.map (·.type)
  · rw [h.offer_taken taken]
    refine ⟨fun t => ?_, h.distinct⟩
    rw [h.found, find?_append]
    by_cases same : p.type = t
    · obtain ⟨parse, found⟩ := Option.isSome_iff_exists.1 (find?_isSome_iff.2 taken)
      subst same
      rw [found, Option.some_or]
    · simp [find?, same]
  · rw [h.offer_new taken]
    refine ⟨fun t => ?_, ?_⟩
    · rw [parser?, find?_append, find?_append, ← h.found t, parser?]
    · have absent := mt h.mem_types_iff.1 taken
      rw [List.map_append, List.map_singleton]
      exact List.nodup_append.2 ⟨h.distinct, List.nodup_singleton _, by
        rintro a member b added rfl
        exact absent (List.mem_singleton.1 added ▸ member)⟩

theorem ofOffers_append (offers more : List (Parser ι)) :
    ofOffers (offers ++ more) = more.foldl Registry.offer (ofOffers offers) := List.foldl_append

theorem ofOffers_concat (offers : List (Parser ι)) (p : Parser ι) :
    ofOffers (offers ++ [p]) = (ofOffers offers).offer p := ofOffers_append offers [p]

theorem ofOffers_collected (offers : List (Parser ι)) : Collected (ofOffers offers) offers := by
  induction offers using List.reverseRecOn with
  | nil => exact empty_collected
  | append_singleton offers p ih =>
    rw [ofOffers_concat]
    exact ih.offer p

theorem Collected.contains_iff (h : Collected r offers) :
    r.contains t = true ↔ t ∈ offers.map (·.type) := by
  rw [contains, h.found, find?_isSome_iff]

/-- Both lists of types hold the same types, one of them each type once. -/
theorem Collected.size_eq (h : Collected r offers) :
    r.size = (offers.map (·.type)).dedup.length := by
  have same : (r.parsers.map (·.type)).Perm (offers.map (·.type)).dedup :=
    (List.perm_ext_iff_of_nodup h.distinct (List.nodup_dedup _)).2 fun t => by
      rw [h.mem_types_iff, List.mem_dedup]
  rw [size, ← same.length_eq, List.length_map]

section Convert

variable {name raw other kind : Text}

omit [DecidableEq ι] in
/-- Whether there is a built-in conversion does not depend on the text. -/
theorem builtin?_eq_none_iff (raw : Text) : builtin? t raw = none ↔ isBuiltin t = false := by
  cases t with
  | builtin b => simp [builtin?, isBuiltin]
  | host t => simp [builtin?, isBuiltin]

theorem convert_of_parsed {parse : Text → Text → Except Failure t.Carrier}
    (found : r.parser? t = some parse) :
    r.convert t name raw = (parse name raw).mapError (.failed name t.name) := by
  simp only [convert, found]

theorem convert_of_builtin {result : Except Failure t.Carrier} (unparsed : r.parser? t = none)
    (builtin : builtin? t raw = some result) :
    r.convert t name raw = result.mapError (.failed name t.name) := by
  simp only [convert, unparsed, builtin]

theorem convert_of_neither (unparsed : r.parser? t = none) (foreign : builtin? t raw = none) :
    r.convert t name raw = .error (.noParser name t.name) := by
  simp only [convert, unparsed, foreign]

theorem mapError_failed_cases {α : Type} {result : Except Failure α} {e : ConvertError}
    (failed : result.mapError (.failed name kind) = .error e) :
    ∃ failure, e = .failed name kind failure := by
  cases result with
  | ok content => cases failed
  | error failure => cases failed; exact ⟨failure, rfl⟩

/-- A type that cannot be converted is told from the registry, and a text that cannot be converted
from the type. Either error is about the argument and the type that were asked for. -/
theorem convert_error_cases {e : ConvertError} (failed : r.convert t name raw = .error e) :
    (r.canConvert t = false ∧ e = .noParser name t.name) ∨
      (r.canConvert t = true ∧ ∃ failure, e = .failed name t.name failure) := by
  cases found : r.parser? t with
  | some parse =>
    rw [convert_of_parsed found] at failed
    exact .inr ⟨by simp [canConvert, contains, found], mapError_failed_cases failed⟩
  | none =>
    cases builtin : builtin? t raw with
    | some result =>
      rw [convert_of_builtin found builtin] at failed
      have known : isBuiltin t = true := by
        rw [← Bool.not_eq_false, ← builtin?_eq_none_iff raw, builtin]
        exact nofun
      exact .inr ⟨by simp [canConvert, known], mapError_failed_cases failed⟩
    | none =>
      rw [convert_of_neither found builtin] at failed
      cases failed
      exact .inl ⟨by simp [canConvert, contains, found, (builtin?_eq_none_iff raw).1 builtin], rfl⟩

theorem convert_of_not_canConvert (cannot : r.canConvert t = false) :
    r.convert t name raw = .error (.noParser name t.name) := by
  simp only [canConvert, Bool.or_eq_false_iff, contains, Option.isSome_eq_false_iff,
    Option.isNone_iff_eq_none] at cannot
  exact convert_of_neither cannot.1 ((builtin?_eq_none_iff raw).2 cannot.2)

theorem convert_eq_noParser_iff :
    r.convert t name raw = .error (.noParser other kind) ↔
      r.canConvert t = false ∧ other = name ∧ kind = t.name := by
  constructor
  · intro failed
    rcases convert_error_cases failed with ⟨cannot, same⟩ | ⟨_, failure, same⟩
    · cases same
      exact ⟨cannot, rfl, rfl⟩
    · cases same
  · rintro ⟨cannot, rfl, rfl⟩
    exact convert_of_not_canConvert cannot

end Convert

theorem Collected.canConvert_iff (h : Collected r offers) :
    r.canConvert t = true ↔ t ∈ offers.map (·.type) ∨ isBuiltin t = true := by
  rw [canConvert, Bool.or_eq_true, h.contains_iff]

/-- Kinds that differ in their defaults only are converted alike. -/
theorem convert_sameType (r : Registry ι) {k l : Kind ι} (same : k.sameType l = true) :
    r.canConvert k.type = r.canConvert l.type ∧ ∀ name raw,
      (r.convert k.type name raw).map (fun content => (⟨k.type, content⟩ : Value ι)) =
        (r.convert l.type name raw).map fun content => ⟨l.type, content⟩ := by
  obtain ⟨type, default?⟩ := k
  obtain ⟨type', default'?⟩ := l
  obtain rfl : type = type' := of_decide_eq_true same
  exact ⟨rfl, fun _ _ => rfl⟩

/-- Whatever has been offered, the first parser for a type is in force and every later one is refused.
Without a parser a type has its built-in conversion, and a type with neither is the only one that is
answered so. Nothing is lost by more offers. -/
theorem first_offer_stands (offers : List (Parser ι)) :
    (∀ t name raw other kind,
      (ofOffers offers).convert t name raw = .error (.noParser other kind) ↔
        (ofOffers offers).canConvert t = false ∧ other = name ∧ kind = t.name) ∧
    (∀ before p later, offers = before ++ p :: later → p.type ∉ before.map (·.type) →
      ∀ name raw, (ofOffers offers).convert p.type name raw =
        (p.parse name raw).mapError (.failed name p.type.name)) ∧
    (∀ b : BuiltinType, .builtin b ∉ offers.map (·.type) → ∀ name raw,
      (ofOffers offers).convert (.builtin b) name raw =
        (Convert.readBuiltin b raw).mapError
          (.failed name (ValueType.builtin b : ValueType ι).name)) ∧
    (∀ p, p.type ∈ offers.map (·.type) →
      (ofOffers offers).add p = .error (.duplicateParser p.type.name) ∧
        ofOffers (offers ++ [p]) = ofOffers offers) ∧
    (∀ p, p.type ∉ offers.map (·.type) →
      (ofOffers offers).add p = .ok (ofOffers (offers ++ [p]))) ∧
    (ofOffers offers).size = (offers.map (·.type)).dedup.length ∧
    (∀ more t, (ofOffers offers).canConvert t = true →
      (ofOffers (offers ++ more)).canConvert t = true) ∧
    (∀ k l : Kind ι, k.sameType l = true →
      (ofOffers offers).canConvert k.type = (ofOffers offers).canConvert l.type ∧ ∀ name raw,
        ((ofOffers offers).convert k.type name raw).map
            (fun content => (⟨k.type, content⟩ : Value ι)) =
          ((ofOffers offers).convert l.type name raw).map fun content => ⟨l.type, content⟩) := by
  have collected := ofOffers_collected offers
  refine ⟨fun t name raw other kind => convert_eq_noParser_iff, ?_, fun b absent name raw => ?_,
    fun p taken => ⟨?_, ?_⟩, fun p new => ?_, collected.size_eq, fun more t can => ?_,
    fun k l same => convert_sameType _ same⟩
  · rintro before p later rfl first name raw
    exact convert_of_parsed ((collected.found p.type).trans (find?_first first))
  · exact convert_of_builtin ((collected.found _).trans (find?_eq_none_iff.2 absent)) rfl
  · rw [add_eq, if_pos (collected.mem_types_iff.2 taken)]
  · rw [ofOffers_concat, collected.offer_taken taken]
  · rw [ofOffers_concat, collected.offer_new new, add_eq, if_neg (mt collected.mem_types_iff.1 new)]
  · rw [(ofOffers_collected (offers ++ more)).canConvert_iff, List.map_append, List.mem_append]
    exact (collected.canConvert_iff.1 can).imp_left .inl

/-- Reads every text as the same truth value. -/
def constantParser (b : Bool) : Parser Demo.HostType := ⟨.builtin .bool, fun _ _ => .ok b⟩

/-- A parser for a built-in type stays in force against a later one. -/
theorem second_bool_parser_refused :
    let offers := [constantParser true, Demo.agesParser, constantParser false]
    (∀ name raw, (ofOffers offers).convert (.builtin .bool) name raw = .ok true) ∧
      (ofOffers offers).add (constantParser false) = .error (.duplicateParser "bool".toList) ∧
      (ofOffers offers).size = 2 := by
  intro offers
  obtain ⟨_, first, _, refused, _, size, _⟩ := first_offer_stands offers
  refine ⟨fun name raw => ?_, (refused (constantParser false) ?_).1, size⟩
  · exact first [] (constantParser true) _ rfl (by simp) name raw
  · exact List.mem_map_of_mem (by simp [offers])

end Phrasebook.Registry
