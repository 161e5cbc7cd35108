import Revalidation.CacheControl.QuotedString
import Revalidation.Proofs.Grammar

/-!
# Quoted strings and their items

The inside of a quoted string is a sequence of items, each a character with a backslash before it or an
ordinary character on its own.  A text has at most one sequence of items.  Unquoting finds the quoted string
that a text begins with exactly if there is one, and it gives the text of the items.
-/

namespace Revalidation
namespace QuotedString

inductive Item where
  | plain (c : Char) (ordinary : c ≠ '"' ∧ c ≠ '\\')
  | escaped (c : Char)

namespace Item

def written : Item → List Char
  | plain c _ => [c]
  | escaped c => ['\\', c]

def char : Item → Char
  | plain c _ => c
  | escaped c => c

end Item

def inside (items : List Item) : List Char := items.flatMap Item.written

def text (items : List Item) : List Char := items.map Item.char

/-- After its first character the text goes on with the items, and the `n`th character is the double quote
that closes them. -/
structure Splits (raw : List Char) (n : Nat) (items : List Item) : Prop where
  two_le : 2 ≤ n
  inside_eq : (raw.take (n - 1)).drop 1 = inside items
  closing : raw[n - 1]? = some '"'

variable {items others : List Item} {rest more raw : List Char} {n : Nat} {c : Char}

theorem inside_cons (item : Item) (items : List Item) :
    inside (item :: items) = item.written ++ inside items := List.flatMap_cons

theorem text_cons (item : Item) (items : List Item) :
    text (item :: items) = item.char :: text items := List.map_cons

theorem inside_injective : Function.Injective inside := by
  intro items
  induction items with
  | nil =>
      intro others h
      cases others with
      | nil => rfl
      | cons other others => cases other <;> cases h
  | cons item items ih =>
      intro others h
      cases others with
      | nil => cases item <;> cases h
      | cons other others =>
          rw [inside_cons, inside_cons] at h
          cases item with
          | plain c hc =>
              cases other with
              | plain d hd =>
                  injection h with hhead htail
                  subst hhead
                  rw [ih htail]
              | escaped d =>
                  injection h with hhead
                  exact absurd hhead hc.2
          | escaped c =>
              cases other with
              | plain d hd =>
                  injection h with hhead
                  exact absurd hhead.symm hd.2
              | escaped d =>
                  injection h with _ htail
                  injection htail with hhead htail
                  subst hhead
                  rw [ih htail]

/-! ## Reading items -/

theorem readInside_plain (hc : c ≠ '"' ∧ c ≠ '\\') (rest : List Char) :
    readInside (c :: rest) = (readInside rest).map fun (text, count) => (c :: text, count + 1) := by
  rw [readInside]
  · rintro rfl
    exact hc.1 rfl
  · rintro rfl _
    exact hc.2 rfl
  · rintro _ _ rfl
    exact absurd rfl hc.2

theorem readInside_inside (items : List Item) (rest : List Char) :
    readInside (inside items ++ '"' :: rest) = some (text items, (inside items).length + 1) := by
  induction items with
  | nil => rfl
  | cons item items ih =>
      rw [inside_cons, text_cons, List.append_assoc]
      cases item with
      | plain c hc =>
          rw [Item.written, List.singleton_append, readInside_plain hc, ih]
          rfl
      | escaped c =>
          show (readInside (inside items ++ '"' :: rest)).map _ = _
          rw [ih]
          rfl

theorem ne_backslash (hlast : c = '\\' → rest = [] → False)
    (hescape : ∀ d tail, c = '\\' → rest = d :: tail → False) : c ≠ '\\' := by
  intro hc
  cases rest with
  | nil => exact hlast hc rfl
  | cons d tail => exact hescape d tail hc rfl

theorem exists_items {found : List Char} {count : Nat} (h : readInside rest = some (found, count)) :
    ∃ items more, rest = inside items ++ '"' :: more ∧ found = text items ∧
      count = (inside items).length + 1 := by
  induction rest using readInside.induct generalizing found count with
  | case1 => cases h
  | case2 rest =>
      cases h
      exact ⟨[], rest, rfl, rfl, rfl⟩
  | case3 => cases h
  | case4 c rest ih =>
      obtain ⟨⟨found, count⟩, hread, hfound⟩ := Option.map_eq_some_iff.mp h
      cases hfound
      obtain ⟨items, more, rfl, rfl, rfl⟩ := ih hread
      exact ⟨.escaped c :: items, more, rfl, rfl, rfl⟩
  | case5 c rest hquote hlast hescape ih =>
      have hbackslash := ne_backslash hlast hescape
      rw [readInside_plain ⟨hquote, hbackslash⟩] at h
      obtain ⟨⟨found, count⟩, hread, hfound⟩ := Option.map_eq_some_iff.mp h
      cases hfound
      obtain ⟨items, more, rfl, rfl, rfl⟩ := ih hread
      exact ⟨.plain c ⟨hquote, hbackslash⟩ :: items, more, rfl, rfl, rfl⟩

theorem readInside_eq_some_iff {found : List Char} {count : Nat} :
    readInside rest = some (found, count) ↔
      ∃ items more, rest = inside items ++ '"' :: more ∧ found = text items ∧
        count = (inside items).length + 1 := by
  constructor
  · exact exists_items
  · rintro ⟨items, more, rfl, rfl, rfl⟩
    exact readInside_inside items more

/-! ## Texts that begin with a double quote -/

/-- A text splits into items exactly if it goes on with them and a double quote. -/
theorem splits_iff : Splits ('"' :: rest) n items ↔
    ∃ more, rest = inside items ++ '"' :: more ∧ n = (inside items).length + 2 := by
  constructor
  · rintro ⟨htwo, hinside, hclosing⟩
    obtain ⟨m, rfl⟩ := Nat.exists_eq_add_of_le htwo
    have hlast : rest[m]? = some '"' := by
      rw [← hclosing, show 2 + m - 1 = m + 1 by omega, List.getElem?_cons_succ]
    have hfront : rest.take m = inside items := by
      rw [← hinside, show 2 + m - 1 = m + 1 by omega, List.take_succ_cons, List.drop_succ_cons,
        List.drop_zero]
    obtain ⟨hm, hquote⟩ := List.getElem?_eq_some_iff.mp hlast
    refine ⟨rest.drop (m + 1), ?_, ?_⟩
    · rw [← hfront, ← hquote, ← List.drop_eq_getElem_cons hm, List.take_append_drop]
    · rw [← hfront, List.length_take, Nat.min_eq_left (Nat.le_of_lt hm)]
      omega
  · rintro ⟨more, rfl, rfl⟩
    refine ⟨by omega, ?_, ?_⟩
    · simp
    · simp

theorem Splits.unique (h : Splits raw n items) (hother : Splits raw n others) : others = items :=
  inside_injective (hother.inside_eq.symm.trans h.inside_eq)

theorem Splits.le_length (h : Splits raw n items) : n ≤ raw.length := by
  obtain ⟨hlast, -⟩ := List.getElem?_eq_some_iff.mp h.closing
  omega

theorem Splits.of_take (h : Splits raw n items) (htake : more.take n = raw.take n) :
    Splits more n items where
  two_le := h.two_le
  inside_eq := by
    have hshorter := congrArg (List.take (n - 1)) htake
    rw [List.take_take, List.take_take, Nat.min_eq_left (Nat.sub_le n 1)] at hshorter
    rw [hshorter, h.inside_eq]
  closing := by
    have hlt : n - 1 < n := Nat.sub_lt (Nat.lt_of_lt_of_le Nat.two_pos h.two_le) Nat.one_pos
    rw [← List.getElem?_take_of_lt hlt, htake, List.getElem?_take_of_lt hlt, h.closing]

theorem exists_quote_of_take (hn : 2 ≤ n) (htake : more.take n = ('"' :: rest).take n) :
    ∃ tail, more = '"' :: tail := by
  obtain ⟨m, rfl⟩ := Nat.exists_eq_add_of_le' hn
  cases more with
  | nil => cases htake
  | cons c more =>
      injection htake with hhead
      exact ⟨more, by rw [hhead]⟩

theorem unquote_eq_some_iff {raw : String} {t : String} (hraw : raw.toList = '"' :: rest) :
    unquote raw = some (n, t) ↔ ∃ items, Splits raw.toList n items ∧ t = String.ofList (text items) := by
  rw [unquote, hraw, List.drop_succ_cons, List.drop_zero]
  constructor
  · intro h
    obtain ⟨⟨found, count⟩, hread, hfound⟩ := Option.map_eq_some_iff.mp h
    cases hfound
    obtain ⟨items, more, rfl, rfl, rfl⟩ := readInside_eq_some_iff.mp hread
    exact ⟨items, splits_iff.mpr ⟨more, rfl, rfl⟩, rfl⟩
  · rintro ⟨items, hsplits, rfl⟩
    obtain ⟨more, rfl, rfl⟩ := splits_iff.mp hsplits
    rw [readInside_inside]
    rfl

/-! ## Ways to write a text -/

/-- The ways to write a text between double quotes are the items that stand for it. -/
theorem quotes_iff {shown written : List Char} : Element.Quotes shown written ↔
    ∃ items, text items = shown ∧ inside items = written := by
  constructor
  · intro h
    induction h with
    | nil => exact ⟨[], rfl, rfl⟩
    | plain hquote hbackslash _ ih =>
        obtain ⟨items, rfl, rfl⟩ := ih
        exact ⟨.plain _ ⟨hquote, hbackslash⟩ :: items, rfl, rfl⟩
    | escaped _ ih =>
        obtain ⟨items, rfl, rfl⟩ := ih
        exact ⟨.escaped _ :: items, rfl, rfl⟩
  · rintro ⟨items, rfl, rfl⟩
    induction items with
    | nil => exact .nil
    | cons item items ih =>
        cases item with
        | plain c hc => exact .plain hc.1 hc.2 ih
        | escaped c => exact .escaped ih

/-! ## What unquoting gives -/

/-- A text that begins with a double quote is unquoted to the text of its items, with the number of
characters up to the double quote that closes them, exactly if it splits into items, which it does in one way
at most.  What comes after that double quote makes no difference.  However a text is written between double
quotes, it is found again. -/
theorem unquote_splits {raw : String} {rest : List Char} (hraw : raw.toList = '"' :: rest) :
    (∀ n t, unquote raw = some (n, t) ↔ ∃ items, Splits raw.toList n items ∧
      (∀ others, Splits raw.toList n others → others = items) ∧ t = String.ofList (text items)) ∧
    (unquote raw = none ↔ ∀ n items, ¬Splits raw.toList n items) ∧
    (∀ n t, unquote raw = some (n, t) → n ≤ raw.length ∧
      ∀ other : String, other.toList.take n = raw.toList.take n → unquote other = some (n, t)) ∧
    ∀ (t : String) (written suffix : List Char), Element.Quotes t.toList written →
      rest = written ++ '"' :: suffix → unquote raw = some (written.length + 2, t) := by
  have hsome : ∀ n t, unquote raw = some (n, t) ↔
      ∃ items, Splits raw.toList n items ∧ t = String.ofList (text items) :=
    fun n t => unquote_eq_some_iff hraw
  refine ⟨?_, ?_, ?_, ?_⟩
  · intro n t
    rw [hsome]
    constructor
    · rintro ⟨items, hsplits, ht⟩
      exact ⟨items, hsplits, fun others hothers => hsplits.unique hothers, ht⟩
    · rintro ⟨items, hsplits, -, ht⟩
      exact ⟨items, hsplits, ht⟩
  · rw [Option.eq_none_iff_forall_ne_some]
    constructor
    · intro hnone n items hsplits
      exact hnone _ ((hsome n _).mpr ⟨items, hsplits, rfl⟩)
    · rintro hsplits ⟨n, t⟩ hread
      obtain ⟨items, hitems, -⟩ := (hsome n t).mp hread
      exact hsplits n items hitems
  · intro n t hread
    obtain ⟨items, hsplits, ht⟩ := (hsome n t).mp hread
    refine ⟨String.length_toList ▸ hsplits.le_length, ?_⟩
    intro other hsame
    obtain ⟨more, hmore⟩ := exists_quote_of_take hsplits.two_le (hraw ▸ hsame)
    exact (unquote_eq_some_iff hmore).mpr ⟨items, hsplits.of_take hsame, ht⟩
  · rintro t written suffix hquotes rfl
    obtain ⟨items, htext, rfl⟩ := quotes_iff.mp hquotes
    rw [hsome]
    refine ⟨items, ?_, ?_⟩
    · rw [hraw]
      exact splits_iff.mpr ⟨suffix, rfl, rfl⟩
    · rw [htext, String.ofList_toList]

/-- A double quote that is escaped closes nothing, and one that comes later makes no difference. -/
theorem unquote_splits_escaped :
    let raw := "\"a\\\"\\b\"x\""
    raw.toList = '"' :: "a\\\"\\b\"x\"".toList ∧
      Element.Quotes "a\"b".toList "a\\\"\\b".toList ∧ unquote raw = some (7, "a\"b") ∧
      7 ≤ raw.length ∧ unquote "\"a\\\"\\b\", c" = some (7, "a\"b") := by
  intro raw
  have hquotes : Element.Quotes "a\"b".toList "a\\\"\\b".toList :=
    .plain (by decide) (by decide) (.escaped (.escaped .nil))
  have hraw : raw.toList = '"' :: "a\\\"\\b\"x\"".toList := by decide
  obtain ⟨-, -, hsame, hwritten⟩ := unquote_splits hraw
  have hread := hwritten "a\"b" _ "x\"".toList hquotes rfl
  obtain ⟨hlength, hother⟩ := hsame _ _ hread
  exact ⟨hraw, hquotes, hread, hlength, hother _ (by decide)⟩

end QuotedString
end Revalidation
