import Revalidation.Proofs.Policies
import Revalidation.Proofs.Reading

/-!
# The grammar of Cache-Control

The grammar says which texts stand for a list of directives.  A text may leave out or add white space and
empty elements, and an argument may be written as a token or as a quoted string, so that one list has many
texts.  Reading any of them gives the list back.  Every lemma about a part of a text leaves open what comes
after it.
-/

namespace Revalidation.Element

def IsToken (text : List Char) : Prop := text ≠ [] ∧ ∀ c ∈ text, isTokenChar c = true

def IsSpaces (text : List Char) : Prop := ∀ c ∈ text, isSpacing c = true

def IsGap (text : List Char) : Prop := ∀ c ∈ text, isSpacing c = true ∨ c = ','

-- Named, since deciding by the characters of the text is not the only instance for such a statement.
instance (text : List Char) : Decidable (IsSpaces text) := List.decidableBAll _ text

instance (text : List Char) : Decidable (IsGap text) := List.decidableBAll _ text

instance (text : List Char) : Decidable (IsToken text) :=
  have : Decidable (∀ c ∈ text, isTokenChar c = true) := List.decidableBAll _ text
  inferInstanceAs (Decidable (_ ∧ _))

/-- What may stand between double quotes for a text.  A double quote and a backslash must have a backslash
before them, and any other character may. -/
inductive Quotes : List Char → List Char → Prop where
  | nil : Quotes [] []
  | plain {c text inside} : c ≠ '"' → c ≠ '\\' → Quotes text inside → Quotes (c :: text) (c :: inside)
  | escaped {c text inside} : Quotes text inside → Quotes (c :: text) ('\\' :: c :: inside)

/-- What may be written for one directive. -/
inductive Writes : Element → List Char → Prop where
  | bare {name : String} : IsToken name.toList → Writes ⟨name, none⟩ name.toList
  | token {name argument : String} {before after : List Char} :
      IsToken name.toList → IsSpaces before → IsSpaces after → IsToken argument.toList →
      Writes ⟨name, some argument⟩ (name.toList ++ (before ++ '=' :: (after ++ argument.toList)))
  | quoted {name argument : String} {before after inside : List Char} :
      IsToken name.toList → IsSpaces before → IsSpaces after → Quotes argument.toList inside →
      Writes ⟨name, some argument⟩
        (name.toList ++ (before ++ '=' :: (after ++ '"' :: (inside ++ ['"']))))

/-- What may be written for a list of directives. -/
inductive Renders : List Element → List Char → Prop where
  | gap {gap : List Char} : IsGap gap → Renders [] gap
  | last {d : Element} {gap text after : List Char} :
      IsGap gap → Writes d text → IsSpaces after → Renders [d] (gap ++ (text ++ after))
  | cons {d : Element} {ds : List Element} {gap text after rest : List Char} :
      IsGap gap → Writes d text → IsSpaces after → Renders ds rest →
      Renders (d :: ds) (gap ++ (text ++ (after ++ ',' :: rest)))

def folded (d : Element) : Element := ⟨Text.lower d.name, d.argument⟩

/-! ## Classes of characters -/

theorem isTokenChar_of_isSpacing {c : Char} (hspace : isSpacing c = true) : isTokenChar c = false := by
  unfold isSpacing at hspace
  obtain rfl | rfl : c = ' ' ∨ c = '\t' := by simpa using hspace
  · decide
  · decide

theorem IsSpaces.isGap {text : List Char} (hspaces : IsSpaces text) : IsGap text :=
  fun c hc => .inl (hspaces c hc)

theorem IsToken.ordinary {text : List Char} (htoken : IsToken text) {c : Char} (hc : c ∈ text) :
    isSpacing c = false ∧ c ≠ ',' ∧ c ≠ '"' := by
  have hchar := htoken.2 c hc
  refine ⟨?_, ?_, ?_⟩
  · cases hspace : isSpacing c with
    | false => rfl
    | true => rw [isTokenChar_of_isSpacing hspace] at hchar; cases hchar
  · rintro rfl
    revert hchar
    decide
  · rintro rfl
    revert hchar
    decide

/-! ## Parts of a text

What has been read of a name or of an argument is kept in reverse.
-/

open Progress

section

variable (rest : List Char)

theorem elements_gap {gap : List Char} (hgap : IsGap gap) :
    between.elements (gap ++ rest) = between.elements rest := by
  induction gap with
  | nil => rfl
  | cons c gap ih =>
      have hskipped : isTokenChar c = false := by
        obtain hspace | rfl := hgap c List.mem_cons_self
        · exact isTokenChar_of_isSpacing hspace
        · decide
      have hstart : start c = between := by
        simp [start, hskipped]
      rw [List.cons_append, elements, step, hstart]
      exact ih fun c hc => hgap c (List.mem_cons_of_mem _ hc)

theorem elements_inName {text : List Char} (htext : ∀ c ∈ text, isTokenChar c = true) (name : List Char) :
    (inName name).elements (text ++ rest) = (inName (text.reverse ++ name)).elements rest := by
  induction text generalizing name with
  | nil => rfl
  | cons c text ih =>
      rw [List.forall_mem_cons] at htext
      rw [List.cons_append, elements, step, if_pos htext.1]
      simpa using ih htext.2 (c :: name)

theorem elements_name {name : List Char} (hname : IsToken name) :
    between.elements (name ++ rest) = (inName name.reverse).elements rest := by
  obtain ⟨hne, hchars⟩ := hname
  cases name with
  | nil => contradiction
  | cons c name =>
      rw [List.forall_mem_cons] at hchars
      have hstart : start c = inName [c] := by
        simp [start, hchars.1]
      rw [List.cons_append, elements, step, hstart]
      simpa using elements_inName rest hchars.2 [c]

theorem elements_afterName {spaces : List Char} (hspaces : IsSpaces spaces) (name : List Char) :
    (afterName name).elements (spaces ++ rest) = (afterName name).elements rest := by
  induction spaces with
  | nil => rfl
  | cons c spaces ih =>
      have hc := hspaces c List.mem_cons_self
      rw [List.cons_append, elements, step, stepAfterName, if_pos hc]
      exact ih fun c hc => hspaces c (List.mem_cons_of_mem _ hc)

theorem elements_spacedName {c : Char} {spaces : List Char} (hspaces : IsSpaces (c :: spaces))
    (name : List Char) :
    (inName name).elements (c :: spaces ++ rest) = (afterName name).elements rest := by
  have hc := hspaces c List.mem_cons_self
  rw [← elements_afterName rest hspaces, List.cons_append, elements, elements, step, step,
    isTokenChar_of_isSpacing hc]
  rfl

theorem elements_equals {spaces : List Char} (hspaces : IsSpaces spaces) (name : List Char) :
    (inName name).elements (spaces ++ '=' :: rest) = (afterEquals name).elements rest := by
  cases spaces with
  | nil => rfl
  | cons c spaces =>
      rw [elements_spacedName _ hspaces]
      rfl

theorem elements_afterEquals {spaces : List Char} (hspaces : IsSpaces spaces) (name : List Char) :
    (afterEquals name).elements (spaces ++ rest) = (afterEquals name).elements rest := by
  induction spaces with
  | nil => rfl
  | cons c spaces ih =>
      have hc := hspaces c List.mem_cons_self
      rw [List.cons_append, elements, step, if_pos hc]
      exact ih fun c hc => hspaces c (List.mem_cons_of_mem _ hc)

theorem elements_inToken {text : List Char} (htext : ∀ c ∈ text, isSpacing c = false ∧ c ≠ ',')
    (name argument : List Char) :
    (inToken name argument).elements (text ++ rest)
      = (inToken name (text.reverse ++ argument)).elements rest := by
  induction text generalizing argument with
  | nil => rfl
  | cons c text ih =>
      rw [List.forall_mem_cons] at htext
      have hgoes : ¬(isSpacing c || decide (c = ',')) = true := by
        simp [htext.1]
      rw [List.cons_append, elements, step, if_neg hgoes]
      simpa using ih htext.2 (c :: argument)

theorem elements_token {argument : List Char} (htoken : IsToken argument) (name : List Char) :
    (afterEquals name).elements (argument ++ rest)
      = (inToken name argument.reverse).elements rest := by
  have hordinary := fun c hc => htoken.ordinary (c := c) hc
  cases argument with
  | nil => exact absurd rfl htoken.1
  | cons c argument =>
      rw [List.forall_mem_cons] at hordinary
      obtain ⟨⟨hspace, hcomma, hquote⟩, hrest⟩ := hordinary
      rw [List.cons_append, elements, step, hspace, if_neg Bool.false_ne_true, if_neg hquote,
        if_neg hcomma]
      simpa using elements_inToken rest (fun c hc => ⟨(hrest c hc).1, (hrest c hc).2.1⟩) name [c]

theorem elements_inQuotes {text inside : List Char} (hquotes : Quotes text inside)
    (name argument : List Char) :
    (inQuotes name argument).elements (inside ++ '"' :: rest)
      = ofReversed name (some (text.reverse ++ argument)) :: between.elements rest := by
  induction hquotes generalizing argument with
  | nil => rfl
  | @plain c text inside hquote hbackslash _ ih =>
      rw [List.cons_append, elements, step, if_neg hquote, if_neg hbackslash]
      simpa using ih (c :: argument)
  | @escaped c text inside _ ih =>
      have hescape : (inQuotes name argument).elements (('\\' :: c :: inside) ++ '"' :: rest)
          = (inQuotes name (c :: argument)).elements (inside ++ '"' :: rest) := rfl
      rw [hescape]
      simpa using ih (c :: argument)

theorem elements_quoted {argument inside : List Char} (hquotes : Quotes argument inside)
    (name : List Char) :
    (afterEquals name).elements ('"' :: (inside ++ '"' :: rest))
      = ofReversed name (some argument.reverse) :: between.elements rest := by
  have hinside := elements_inQuotes rest hquotes name []
  rw [List.append_nil] at hinside
  rw [← hinside]
  rfl

end

/-! ## Ends of elements

An element ends at a comma or with the field.  What comes then is read afresh.
-/

def Stops (rest : List Char) : Prop := rest = [] ∨ ∃ more, rest = ',' :: more

section

variable {rest : List Char}

theorem elements_stops {p : Progress} (hclosed : p.isClosed = true) (hstops : Stops rest) :
    p.elements rest = p.finish.toList ++ between.elements rest := by
  obtain rfl | ⟨more, rfl⟩ := hstops
  · exact (List.append_nil _).symm
  · exact elements_comma hclosed more

theorem elements_bare_end {spaces : List Char} (hspaces : IsSpaces spaces) (hstops : Stops rest)
    (name : List Char) :
    (inName name).elements (spaces ++ rest) = ofReversed name none :: between.elements rest := by
  cases spaces with
  | nil => exact elements_stops rfl hstops
  | cons c spaces =>
      rw [elements_spacedName _ hspaces]
      exact elements_stops rfl hstops

theorem elements_token_end {spaces : List Char} (hspaces : IsSpaces spaces) (hstops : Stops rest)
    (name argument : List Char) :
    (inToken name argument).elements (spaces ++ rest)
      = ofReversed name (some argument) :: between.elements rest := by
  cases spaces with
  | nil => exact elements_stops rfl hstops
  | cons c spaces =>
      have hc := hspaces c List.mem_cons_self
      have hend : (isSpacing c || decide (c = ',')) = true := by
        simp [hc]
      have hgap := elements_gap rest (IsSpaces.isGap fun c hc => hspaces c (List.mem_cons_of_mem _ hc))
      rw [List.cons_append, elements, step, if_pos hend, hgap]
      rfl

theorem ofReversed_reverse (d : Element) :
    ofReversed d.name.toList.reverse (d.argument.map (·.toList.reverse)) = d.folded := by
  obtain ⟨name, argument⟩ := d
  cases argument <;> simp [ofReversed, folded]

/-- One directive, whatever way it is written. -/
theorem elements_writes {d : Element} {text after : List Char} (hwrites : Writes d text)
    (hafter : IsSpaces after) (hstops : Stops rest) :
    between.elements (text ++ (after ++ rest)) = d.folded :: between.elements rest := by
  rw [← ofReversed_reverse d]
  cases hwrites with
  | bare hname =>
      rw [elements_name _ hname]
      exact elements_bare_end hafter hstops _
  | token hname hbefore hspaces htoken =>
      simp only [List.append_assoc, List.cons_append]
      rw [elements_name _ hname, elements_equals _ hbefore, elements_afterEquals _ hspaces,
        elements_token _ htoken]
      exact elements_token_end hafter hstops _ _
  | quoted hname hbefore hspaces hquotes =>
      simp only [List.append_assoc, List.cons_append, List.nil_append]
      rw [elements_name _ hname, elements_equals _ hbefore, elements_afterEquals _ hspaces,
        elements_quoted _ hquotes, elements_gap _ hafter.isGap]
      rfl

end

/-! ## Whole fields -/

theorem elements_renders {ds : List Element} {text : List Char} (hrenders : Renders ds text) :
    between.elements text = ds.map folded := by
  induction hrenders with
  | gap hgap =>
      have hend := elements_gap [] hgap
      rwa [List.append_nil] at hend
  | @last d gap text after hgap hwrites hafter =>
      have hlast := elements_writes hwrites hafter (.inl rfl)
      rw [List.append_nil] at hlast
      rw [elements_gap _ hgap, hlast]
      rfl
  | @cons d ds gap text after rest hgap hwrites hafter _ ih =>
      have hcomma : between.elements (',' :: rest) = between.elements rest := rfl
      rw [elements_gap _ hgap, elements_writes hwrites hafter (.inr ⟨rest, rfl⟩), hcomma, ih,
        List.map_cons]

theorem Renders.spaced {ds : List Element} {text : List Char} (hrenders : Renders ds text) :
    Renders ds (' ' :: text) := by
  have hwider : ∀ gap, IsGap gap → IsGap (' ' :: gap) :=
    fun gap hgap => List.forall_mem_cons.mpr ⟨.inl rfl, hgap⟩
  cases hrenders with
  | gap hgap => exact .gap (hwider _ hgap)
  | last hgap hwrites hafter => exact .last (hwider _ hgap) hwrites hafter
  | cons hgap hwrites hafter hrest => exact .cons (hwider _ hgap) hwrites hafter hrest

theorem Renders.intercalate {α : Type} {directive : α → Element} {text : α → String} {items : List α}
    (hwrites : ∀ a ∈ items, Writes (directive a) (text a).toList) :
    Renders (items.map directive) (", ".intercalate (items.map text)).toList := by
  induction items with
  | nil => exact .gap fun c hc => absurd hc List.not_mem_nil
  | cons a items ih =>
      rw [List.forall_mem_cons] at hwrites
      obtain ⟨hfirst, hrest⟩ := hwrites
      cases items with
      | nil =>
          have hlast : Renders [directive a] ([] ++ ((text a).toList ++ [])) :=
            .last (by decide) hfirst (by decide)
          simpa using hlast
      | cons b items =>
          have hjoined : (", ".intercalate ((a :: b :: items).map text)).toList
              = [] ++ ((text a).toList
                ++ ([] ++ ',' :: ' ' :: (", ".intercalate ((b :: items).map text)).toList)) := by
            rw [List.map_cons, List.map_cons, String.intercalate_cons_cons, String.toList_append,
              String.toList_append, List.append_assoc]
            rfl
          rw [hjoined]
          exact .cons (by decide) hfirst (by decide) (ih hrest).spaced

end Revalidation.Element

namespace Revalidation.CacheControl

open Element

/-- Every text of a list of directives is read as that list, with the names in lower case.  The policy of
the text has the flags of the names that occur and the numbers of the last arguments. -/
theorem parse_renders {ds : List Element} {value : String} (hrenders : Renders ds value.toList) :
    readAll value = ds.map folded ∧
    let cc := parse value
    (cc.noCache = true ↔ ∃ d ∈ ds, Text.lower d.name = "no-cache") ∧
    (cc.noStore = true ↔ ∃ d ∈ ds, Text.lower d.name = "no-store") ∧
    (cc.cachePrivate = true ↔ ∃ d ∈ ds, Text.lower d.name = "private") ∧
    (cc.mustRevalidate = true ↔
      ∃ d ∈ ds, Text.lower d.name = "must-revalidate" ∧ d.argument = none) ∧
    (cc.noTransform = true ↔ ∃ d ∈ ds, Text.lower d.name = "no-transform" ∧ d.argument = none) ∧
    (cc.cachePublic = true ↔ ∃ d ∈ ds, Text.lower d.name = "public" ∧ d.argument = none) ∧
    (cc.proxyRevalidate = true ↔
      ∃ d ∈ ds, Text.lower d.name = "proxy-revalidate" ∧ d.argument = none) ∧
    cc.maxAge = lastSeconds? "max-age" (ds.map folded) ∧
    cc.sMaxAge = lastSeconds? "s-maxage" (ds.map folded) := by
  have hread : readAll value = ds.map folded := elements_renders hrenders
  have hnamed : ∀ name, (ds.map folded).any (·.name == name) = true
      ↔ ∃ d ∈ ds, Text.lower d.name = name := by
    intro name
    simp [folded]
  have hbare : ∀ name, (ds.map folded).any (isBare name) = true
      ↔ ∃ d ∈ ds, Text.lower d.name = name ∧ d.argument = none := by
    intro name
    simp [folded, isBare]
  refine ⟨hread, ?_⟩
  simp only [parse_eq, hread, hnamed, hbare, true_and]

theorem parse_renders_mixed :
    ∃ ds value, Renders ds value.toList
      ∧ readAll value = [⟨"no-cache", none⟩, ⟨"max-age", some "60"⟩, ⟨"private", some "a\",b"⟩]
      ∧ (parse value).noCache = true ∧ (parse value).maxAge = some 60 := by
  have hbare : Writes ⟨"no-Cache", none⟩ "no-Cache".toList := .bare (by decide)
  have htoken : Writes ⟨"MAX-age", some "60"⟩ "MAX-age =\t60".toList :=
    .token (by decide) (by decide : IsSpaces [' ']) (by decide : IsSpaces ['\t']) (by decide)
  have hinside : Quotes "a\",b".toList "\\a\\\",b".toList :=
    .escaped (.escaped (.plain (by decide) (by decide) (.plain (by decide) (by decide) .nil)))
  have hquoted : Writes ⟨"Private", some "a\",b"⟩ "Private=\"\\a\\\",b\"".toList :=
    .quoted (by decide) (by decide : IsSpaces []) (by decide : IsSpaces []) hinside
  have hrenders : Renders _ " no-Cache\t, ,MAX-age =\t60,Private=\"\\a\\\",b\" ".toList :=
    .cons (by decide : IsGap [' ']) hbare (by decide : IsSpaces ['\t'])
      (.cons (by decide : IsGap [' ', ',']) htoken (by decide : IsSpaces [])
        (.last (by decide : IsGap []) hquoted (by decide : IsSpaces [' '])))
  obtain ⟨hread, hnoCache, -, -, -, -, -, -, hmaxAge, -⟩ := parse_renders hrenders
  refine ⟨_, _, hrenders, hread.trans ?_, hnoCache.mpr ?_, hmaxAge.trans ?_⟩
  · decide
  · decide
  · decide

end Revalidation.CacheControl
