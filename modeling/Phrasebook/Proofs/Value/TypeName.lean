import Mathlib.Data.List.Infix
import Phrasebook.Value.TypeName

/-! Short names of types. On the printed form of a type expression, however deep, the flat scan for
delimiters cuts every path to its last identifier and changes nothing else. Of any text at all it
keeps the delimiters, leaves no double colon, and finds nothing more to do the second time. -/
namespace Phrasebook.TypeName

/-- A name without delimiters and colons. -/
structure Identifier where
  text : Text
  nonempty : text ≠ []
  plain : ∀ c ∈ text, isDelimiter c = false ∧ c ≠ ':'

mutual

/-- Type expressions. Only a path names modules. -/
inductive TypeExpr where
  | path (p : TypePath)
  | tuple (items : List TypeExpr)
  | reference (mutable : Bool) (target : TypeExpr)
  | slice (item : TypeExpr)
  | array (item : TypeExpr) (length : Nat)
  /-- A function that returns nothing. -/
  | procedure (params : List TypeExpr)
  | function (params : List TypeExpr) (result : TypeExpr)
  /-- Any value that has these traits. -/
  | object (first : TypePath) (more : List TypePath)

/-- An identifier in some modules, with arguments. -/
inductive TypePath where
  | named (modules : List Identifier) (name : Identifier) (arguments : List TypeExpr)

end

/-! The printed form. A tuple of one has a comma, and a path without arguments no brackets. -/

def listed (texts : List Text) : Text := Text.joined ", ".toList texts

def inParens : List Text → Text
  | [t] => '(' :: t ++ [',', ')']
  | texts => '(' :: listed texts ++ [')']

def inAngles : List Text → Text
  | [] => []
  | texts => '<' :: listed texts ++ ['>']

mutual

def TypeExpr.print : TypeExpr → Text
  | .path p => p.print
  | .tuple items => inParens (TypeExpr.printAll items)
  | .reference mutable target =>
    '&' :: (if mutable then "mut ".toList else []) ++ target.print
  | .slice item => '[' :: item.print ++ [']']
  | .array item length => '[' :: item.print ++ "; ".toList ++ Nat.toDigits 10 length ++ [']']
  | .procedure params => "fn(".toList ++ listed (TypeExpr.printAll params) ++ [')']
  | .function params result =>
    "fn(".toList ++ listed (TypeExpr.printAll params) ++ ") -> ".toList ++ result.print
  | .object first more =>
    "dyn ".toList ++ Text.joined " + ".toList (first.print :: TypePath.printAll more)

def TypePath.print : TypePath → Text
  | .named modules name arguments =>
    modules.flatMap (·.text ++ "::".toList) ++ name.text ++ inAngles (TypeExpr.printAll arguments)

def TypeExpr.printAll : List TypeExpr → List Text
  | [] => []
  | t :: more => t.print :: TypeExpr.printAll more

def TypePath.printAll : List TypePath → List Text
  | [] => []
  | p :: more => p.print :: TypePath.printAll more

end

mutual

/-- The expression with every path cut to its last identifier. -/
def TypeExpr.cut : TypeExpr → TypeExpr
  | .path p => .path p.cut
  | .tuple items => .tuple (TypeExpr.cutAll items)
  | .reference mutable target => .reference mutable target.cut
  | .slice item => .slice item.cut
  | .array item length => .array item.cut length
  | .procedure params => .procedure (TypeExpr.cutAll params)
  | .function params result => .function (TypeExpr.cutAll params) result.cut
  | .object first more => .object first.cut (TypePath.cutAll more)

def TypePath.cut : TypePath → TypePath
  | .named _ name arguments => .named [] name (TypeExpr.cutAll arguments)

def TypeExpr.cutAll : List TypeExpr → List TypeExpr
  | [] => []
  | t :: more => t.cut :: TypeExpr.cutAll more

def TypePath.cutAll : List TypePath → List TypePath
  | [] => []
  | p :: more => p.cut :: TypePath.cutAll more

end

variable {t u path : Text} {c : Char}

section LastSegment

/-- No double colon. -/
def Bare (t : Text) : Prop := ¬ [':', ':'] <:+: t

theorem bare_nil : Bare [] := by simp [Bare]

theorem bare_cons_iff : Bare (c :: t) ↔ ¬ (c = ':' ∧ t.head? = some ':') ∧ Bare t := by
  have start : [':', ':'] <+: c :: t ↔ c = ':' ∧ t.head? = some ':' := by
    cases t with
    | nil => simp
    | cons d t => simp [eq_comm]
  rw [Bare, List.infix_cons_iff, not_or, start, Bare]

theorem bare_of_no_colon (plain : ':' ∉ t) : Bare t := fun inside =>
  plain (inside.subset List.mem_cons_self)

/-- A character that is no colon keeps two texts apart. -/
theorem Bare.append (h : Bare t) (k : Bare u) (other : c ≠ ':') : Bare (t ++ c :: u) := by
  induction t with
  | nil => exact bare_cons_iff.2 ⟨fun both => other both.1, k⟩
  | cons d t ih =>
    obtain ⟨here, later⟩ := bare_cons_iff.1 h
    refine bare_cons_iff.2 ⟨fun both => here ⟨both.1, ?_⟩, ih later⟩
    cases t with
    | nil => exact absurd (Option.some.inj both.2) other
    | cons e t => exact both.2

theorem afterLastColons?_of_some {last : Text} (later : afterLastColons? t = some last) :
    afterLastColons? (c :: t) = some last := by
  rw [afterLastColons?.eq_def]
  simp [later]

theorem afterLastColons?_of_none (nowhere : afterLastColons? t = none) :
    afterLastColons? (c :: t) = if c = ':' ∧ t.head? = some ':' then some t.tail else none := by
  rw [afterLastColons?.eq_def]
  simp only [nowhere]
  split
  · simp
  · next other =>
    refine (if_neg ?_).symm
    rintro ⟨rfl, head⟩
    obtain ⟨last, rfl⟩ := List.head?_eq_some_iff.1 head
    exact other last rfl rfl

theorem afterLastColons?_eq_none_iff : afterLastColons? t = none ↔ Bare t := by
  induction t with
  | nil => exact iff_of_true rfl bare_nil
  | cons c t ih =>
    rw [bare_cons_iff, ← ih]
    cases later : afterLastColons? t with
    | some last => simp [afterLastColons?_of_some later]
    | none => simp [afterLastColons?_of_none later]

/-- The last double colon is the one with none behind it, not even one that shares a colon with it.
-/
theorem afterLastColons?_append (front : Text) (bare : Bare (':' :: t)) :
    afterLastColons? (front ++ ':' :: ':' :: t) = some t := by
  induction front with
  | nil =>
    rw [List.nil_append, afterLastColons?_of_none (afterLastColons?_eq_none_iff.2 bare)]
    simp
  | cons c front ih => exact afterLastColons?_of_some ih

theorem lastSegment_append (front : Text) (bare : Bare (':' :: t)) :
    lastSegment (front ++ ':' :: ':' :: t) = t := by
  rw [lastSegment, afterLastColons?_append front bare, Option.getD_some]

theorem lastSegment_of_bare (bare : Bare t) : lastSegment t = t := by
  rw [lastSegment, afterLastColons?_eq_none_iff.2 bare, Option.getD_none]

theorem exists_last_colons (t : Text) :
    Bare t ∨ ∃ front last, t = front ++ ':' :: ':' :: last ∧ Bare (':' :: last) := by
  induction t with
  | nil => exact .inl bare_nil
  | cons c t ih =>
    rcases ih with bare | ⟨front, last, rfl, bare⟩
    · by_cases colons : c = ':' ∧ t.head? = some ':'
      · obtain ⟨rfl, head⟩ := colons
        obtain ⟨last, rfl⟩ := List.head?_eq_some_iff.1 head
        exact .inr ⟨[], last, rfl, bare⟩
      · exact .inl (bare_cons_iff.2 ⟨colons, bare⟩)
    · exact .inr ⟨c :: front, last, rfl, bare⟩

theorem bare_lastSegment (t : Text) : Bare (lastSegment t) := by
  rcases exists_last_colons t with bare | ⟨front, last, rfl, bare⟩
  · rwa [lastSegment_of_bare bare]
  · rw [lastSegment_append front bare]
    exact (bare_cons_iff.1 bare).2

/-- The last segment is the end of the text. -/
theorem lastSegment_suffix (t : Text) : lastSegment t <:+ t := by
  rcases exists_last_colons t with bare | ⟨front, last, rfl, bare⟩
  · rw [lastSegment_of_bare bare]
  · rw [lastSegment_append front bare]
    exact ⟨front ++ [':', ':'], by simp⟩

end LastSegment

section Short

theorem isDelimiter_colon : isDelimiter ':' = false := by decide

theorem ne_colon_of_isDelimiter (delimiter : isDelimiter c = true) : c ≠ ':' := by
  rintro rfl
  exact absurd delimiter (by decide)

/-- Text between delimiters. -/
def Unbroken (t : Text) : Prop := ∀ c ∈ t, isDelimiter c = false

theorem unbroken_concat_iff : Unbroken (t ++ [c]) ↔ Unbroken t ∧ isDelimiter c = false := by
  simp [Unbroken, or_imp, forall_and]

theorem Unbroken.lastSegment (h : Unbroken t) : Unbroken (lastSegment t) := fun c member =>
  h c ((lastSegment_suffix t).subset member)

/-- The scan is cut at every delimiter. -/
theorem shortenFrom_append (delimiter : isDelimiter c = true) :
    shortenFrom path (t ++ c :: u) = shortenFrom path t ++ c :: short u := by
  induction t generalizing path with
  | nil => rw [List.nil_append, shortenFrom, shortenFrom, if_pos delimiter, short]
  | cons d t ih =>
    rw [List.cons_append, shortenFrom, shortenFrom]
    split
    · rw [ih, List.append_assoc, List.cons_append]
    · exact ih

theorem short_append (delimiter : isDelimiter c = true) (t u : Text) :
    short (t ++ c :: u) = short t ++ c :: short u := shortenFrom_append delimiter

theorem short_cons (delimiter : isDelimiter c = true) (u : Text) :
    short (c :: u) = c :: short u := short_append delimiter [] u

theorem shortenFrom_unbroken (h : Unbroken t) : shortenFrom path t = lastSegment (path ++ t) := by
  induction t generalizing path with
  | nil => rw [shortenFrom, List.append_nil]
  | cons c t ih =>
    obtain ⟨here, later⟩ := List.forall_mem_cons.1 h
    rw [shortenFrom, if_neg (by simp [here]), ih later, List.append_assoc, List.singleton_append]

theorem short_unbroken (h : Unbroken t) : short t = lastSegment t := shortenFrom_unbroken h

/-- Delimiters cut a text into pieces without any: induction on the pieces. -/
theorem cut_induction {P : Text → Prop} (last : ∀ t, Unbroken t → P t)
    (next : ∀ t c u, Unbroken t → isDelimiter c = true → P u → P (t ++ c :: u)) (t : Text) : P t := by
  have from' : ∀ u front, Unbroken front → P (front ++ u) := by
    intro u
    induction u with
    | nil => exact fun front unbroken => by simpa using last front unbroken
    | cons c u ih =>
      intro front unbroken
      cases delimiter : isDelimiter c with
      | true => exact next front c u unbroken delimiter (ih [] nofun)
      | false =>
        have more := ih (front ++ [c]) (unbroken_concat_iff.2 ⟨unbroken, delimiter⟩)
        rwa [List.append_assoc, List.singleton_append] at more
  exact from' t [] nofun

theorem bare_short (t : Text) : Bare (short t) := by
  induction t using cut_induction with
  | last t unbroken => rw [short_unbroken unbroken]; exact bare_lastSegment t
  | next t c u unbroken delimiter ih =>
    rw [short_append delimiter, short_unbroken unbroken]
    exact (bare_lastSegment t).append ih (ne_colon_of_isDelimiter delimiter)

theorem filter_short (t : Text) : (short t).filter isDelimiter = t.filter isDelimiter := by
  have none {t : Text} (unbroken : Unbroken t) : t.filter isDelimiter = [] :=
    List.filter_eq_nil_iff.2 fun c member => by simp [unbroken c member]
  induction t using cut_induction with
  | last t unbroken => rw [short_unbroken unbroken, none unbroken, none unbroken.lastSegment]
  | next t c u unbroken delimiter ih =>
    rw [short_append delimiter, short_unbroken unbroken, List.filter_append, List.filter_append,
      none unbroken, none unbroken.lastSegment, List.filter_cons_of_pos delimiter,
      List.filter_cons_of_pos delimiter, ih]

theorem short_of_bare (bare : Bare t) : short t = t := by
  induction t using cut_induction with
  | last t unbroken => rw [short_unbroken unbroken, lastSegment_of_bare bare]
  | next t c u unbroken delimiter ih =>
    have front : Bare t := fun inside => bare (inside.trans (List.prefix_append t _).isInfix)
    have back : Bare u := fun inside =>
      bare (inside.trans ((List.suffix_cons c u).trans (List.suffix_append t _)).isInfix)
    rw [short_append delimiter, short_unbroken unbroken, lastSegment_of_bare front, ih back]

end Short

section Printed

theorem short_concat (delimiter : isDelimiter c = true) (t : Text) :
    short (t ++ [c]) = short t ++ [c] := short_append delimiter t []

/-- A separator at which the scan cuts does not join its neighbours. -/
theorem short_joined {separator : Text}
    (cuts : ∀ t u, short (t ++ separator ++ u) = short t ++ separator ++ short u)
    (texts : List Text) :
    short (Text.joined separator texts) = Text.joined separator (texts.map short) := by
  induction texts with
  | nil => rfl
  | cons t texts ih =>
    cases texts with
    | nil => rfl
    | cons u texts =>
      rw [Text.joined, cuts, ih]
      rfl

theorem short_listed (texts : List Text) : short (listed texts) = listed (texts.map short) := by
  refine short_joined (fun t u => ?_) texts
  have around (t u : Text) : t ++ ", ".toList ++ u = t ++ ',' :: ' ' :: u := by simp
  rw [around, around, short_append (by decide), short_cons (by decide)]

theorem short_bounds (texts : List Text) :
    short (Text.joined " + ".toList texts) = Text.joined " + ".toList (texts.map short) := by
  refine short_joined (fun t u => ?_) texts
  have around (t u : Text) : t ++ " + ".toList ++ u = t ++ ' ' :: (['+'] ++ ' ' :: u) := by simp
  rw [around, around, short_append (by decide), short_append (by decide)]
  rfl

theorem short_inParens (texts : List Text) : short (inParens texts) = inParens (texts.map short) := by
  have open' : isDelimiter '(' = true := by decide
  have close : isDelimiter ')' = true := by decide
  match texts with
  | [] => rfl
  | [t] =>
    change short ('(' :: (t ++ ',' :: [')'])) = '(' :: (short t ++ ',' :: [')'])
    rw [short_cons open', short_append (by decide)]
    rfl
  | t :: u :: more =>
    change short ('(' :: (listed (t :: u :: more) ++ [')'])) = _
    rw [short_cons open', short_concat close, short_listed]
    rfl

/-- The name of a path, after any modules, is its last segment. -/
theorem short_modules (modules : List Identifier) (name : Identifier) :
    Unbroken (modules.flatMap (·.text ++ "::".toList) ++ name.text) ∧
      short (modules.flatMap (·.text ++ "::".toList) ++ name.text) = name.text := by
  have colons : Unbroken "::".toList := by simp [Unbroken, isDelimiter_colon]
  have unbroken : Unbroken (modules.flatMap (·.text ++ "::".toList) ++ name.text) := by
    intro c member
    rcases List.mem_append.1 member with inside | inside
    · obtain ⟨m, _, inside⟩ := List.mem_flatMap.1 inside
      exact (List.mem_append.1 inside).elim (fun here => (m.plain c here).1) (colons c)
    · exact (name.plain c inside).1
  have plain : ':' ∉ name.text := fun inside => (name.plain ':' inside).2 rfl
  refine ⟨unbroken, ?_⟩
  rw [short_unbroken unbroken]
  rcases List.eq_nil_or_concat modules with rfl | ⟨front, m, rfl⟩
  · exact lastSegment_of_bare (bare_of_no_colon plain)
  · have bare : Bare (':' :: name.text) := by
      refine bare_cons_iff.2 ⟨fun both => plain (List.mem_of_head? both.2), bare_of_no_colon plain⟩
    have split : (front ++ [m]).flatMap (·.text ++ "::".toList) ++ name.text =
        front.flatMap (·.text ++ "::".toList) ++ m.text ++ ':' :: ':' :: name.text := by simp
    rw [List.concat_eq_append, split, lastSegment_append _ bare]

theorem short_inAngles (front : Text) (texts : List Text) :
    short (front ++ inAngles texts) = short front ++ inAngles (texts.map short) := by
  cases texts with
  | nil => simp [inAngles]
  | cons t more =>
    change short (front ++ '<' :: (listed (t :: more) ++ ['>'])) = _
    rw [short_append (by decide), short_concat (by decide), short_listed]
    rfl

theorem short_digits (n : Nat) : short (Nat.toDigits 10 n) = Nat.toDigits 10 n := by
  have digit : ∀ c ∈ Nat.toDigits 10 n, c.isDigit = true := fun c =>
    Nat.isDigit_of_mem_toDigits (by decide) (by decide)
  refine short_of_bare (bare_of_no_colon fun colon => ?_)
  exact absurd (digit ':' colon) (by decide)

mutual

/-- By induction on the expression: in each form delimiters stand around the parts. -/
theorem TypeExpr.short_print : ∀ e : TypeExpr, short e.print = e.cut.print
  | .path p => p.short_print
  | .tuple items => by
    rw [TypeExpr.print, short_inParens, TypeExpr.map_short_printAll items]
    rfl
  | .reference mutable target => by
    cases mutable
    · change short ('&' :: target.print) = '&' :: target.cut.print
      rw [short_cons (by decide), target.short_print]
    · change short ('&' :: ("mut".toList ++ ' ' :: target.print)) =
        '&' :: ("mut".toList ++ ' ' :: target.cut.print)
      rw [short_cons (by decide), short_append (by decide), target.short_print]
      rfl
  | .slice item => by
    change short ('[' :: (item.print ++ [']'])) = '[' :: (item.cut.print ++ [']'])
    rw [short_cons (by decide), short_concat (by decide), item.short_print]
  | .array item length => by
    have around (t : Text) : '[' :: t ++ "; ".toList ++ Nat.toDigits 10 length ++ [']'] =
        '[' :: (t ++ ';' :: ' ' :: (Nat.toDigits 10 length ++ [']'])) := by simp
    rw [TypeExpr.print, TypeExpr.cut, TypeExpr.print, around, around, short_cons (by decide),
      short_append (by decide), short_cons (by decide), short_concat (by decide), short_digits,
      item.short_print]
  | .procedure params => by
    have around (t : Text) : "fn(".toList ++ t ++ [')'] = "fn".toList ++ '(' :: (t ++ [')']) := by simp
    rw [TypeExpr.print, TypeExpr.cut, TypeExpr.print, around, around, short_append (by decide),
      short_concat (by decide), short_listed, TypeExpr.map_short_printAll params]
    rfl
  | .function params result => by
    have around (t u : Text) : "fn(".toList ++ t ++ ") -> ".toList ++ u =
        "fn".toList ++ '(' :: (t ++ ')' :: ' ' :: ("-".toList ++ '>' :: ' ' :: u)) := by simp
    rw [TypeExpr.print, TypeExpr.cut, TypeExpr.print, around, around, short_append (by decide),
      short_append (by decide), short_cons (by decide), short_append (by decide),
      short_cons (by decide), short_listed, TypeExpr.map_short_printAll params, result.short_print]
    rfl
  | .object first more => by
    have around (t : Text) : "dyn ".toList ++ t = "dyn".toList ++ ' ' :: t := by simp
    rw [TypeExpr.print, TypeExpr.cut, TypeExpr.print, around, around, short_append (by decide),
      short_bounds, List.map_cons, first.short_print, TypePath.map_short_printAll more]
    rfl

theorem TypePath.short_print : ∀ p : TypePath, short p.print = p.cut.print
  | .named modules name arguments => by
    rw [TypePath.print, short_inAngles, (short_modules modules name).2,
      TypeExpr.map_short_printAll arguments]
    rfl

theorem TypeExpr.map_short_printAll :
    ∀ es : List TypeExpr, (TypeExpr.printAll es).map short = TypeExpr.printAll (TypeExpr.cutAll es)
  | [] => rfl
  | e :: more => congrArg₂ List.cons e.short_print (TypeExpr.map_short_printAll more)

theorem TypePath.map_short_printAll :
    ∀ ps : List TypePath, (TypePath.printAll ps).map short = TypePath.printAll (TypePath.cutAll ps)
  | [] => rfl
  | p :: more => congrArg₂ List.cons p.short_print (TypePath.map_short_printAll more)

end

end Printed

/-- Shortening the printed form of a type expression is printing the expression with its paths cut.
Of any text it keeps the delimiters, in their order; it leaves no double colon, and is done after
once. -/
theorem short_commutes (e : TypeExpr) (t : Text) :
    short e.print = e.cut.print ∧
    ¬ [':', ':'] <:+: short t ∧
    (short t).filter isDelimiter = t.filter isDelimiter ∧
    short (short t) = short t :=
  ⟨e.short_print, bare_short t, filter_short t, short_of_bare (bare_short t)⟩

end Phrasebook.TypeName
