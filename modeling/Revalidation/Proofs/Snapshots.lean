import Revalidation.CacheControl.ResponseRule
import Revalidation.Proofs.Chaining
import Revalidation.Proofs.HeaderLookup

/-!
# Rules keep the text they were set up with

Policies go on changing while rules are in use: directives are added to them, and more rules are set up.  A
rule that was set up keeps what its source was written as at that time.  So whatever is done later, a response
gets that text, or keeps its own if the source had no directive.
-/

namespace Revalidation

def Duration.fault? (duration : Duration) : Option Fault :=
  match duration.toSeconds with
  | .ok _ => none
  | .error fault => some fault

namespace CacheControl

def Settings.fault? (settings : Settings) : Option Fault :=
  (settings.maxAge.bind Duration.fault?).or (settings.sMaxAge.bind Duration.fault?)

structure FieldAccess (F : Type) where
  read : F → String → Option String
  assign : F → String → String → F

/-- A field that was assigned holds that value and no other. -/
def FieldAccess.Replaces {F : Type} (access : FieldAccess F) : Prop :=
  ∀ fields name value, access.read (access.assign fields name value) name = some value

def ResponseRule.applyTo {F : Type} (rule : ResponseRule) (access : FieldAccess F) (fields : F) : F :=
  match rule.value with
  | some value => access.assign fields "Cache-Control" value
  | none => fields

structure RuleBook where
  policies : Policies := {}
  rules : List ResponseRule := []

namespace RuleBook

def source (book : RuleBook) (settings : Settings) : Option Nat → Except Fault CacheControl
  | some id => .ok (book.policies.policy id)
  | none => ofSettings settings

/-- Sets up a rule, from a policy by its number or from settings, and gives the number of the rule. -/
def setUp (book : RuleBook) (policy : Option Nat) (settings : Settings) : Except Fault Nat × RuleBook :=
  match ResponseRule.ofSource (policy.map book.policies.policy) settings with
  | .ok rule => (.ok book.rules.length, { book with rules := book.rules ++ [rule] })
  | .error fault => (.error fault, book)

inductive Step where
  | add (id : Nat) (addition : Addition)
  | setUp (policy : Option Nat) (settings : Settings)

/-- The rule book after a step.  One that is refused is passed over. -/
def after (book : RuleBook) : Step → RuleBook
  | .add id addition => { book with policies := (book.policies.add id addition).2 }
  | .setUp policy settings => (book.setUp policy settings).2

def run (book : RuleBook) (steps : List Step) : RuleBook := steps.foldl after book

/-- Whatever is done later, the rule with a number puts the text, if there is one, into the field of a
response, and otherwise leaves the response alone. -/
def Puts {F : Type} (book : RuleBook) (access : FieldAccess F) (rule : Nat) (text : Option String) : Prop :=
  ∀ later fields, ∃ r, (book.run later).rules[rule]? = some r ∧
    access.read (r.applyTo access fields) "Cache-Control" =
      text.or (access.read fields "Cache-Control") ∧
    (text = none → r.applyTo access fields = fields)

variable {F : Type} {access : FieldAccess F} {book : RuleBook} {settings : Settings} {rule : Nat}
  {r : ResponseRule} {fault : Fault}

/-! ## What a rule does to a response -/

/-- Seen through the field, the fields after a rule are the ones that the rule gives. -/
theorem read_applyTo (hreplaces : access.Replaces) (r : ResponseRule) (fields : F) :
    access.read (r.applyTo access fields) "Cache-Control" =
      r.apply (access.read fields "Cache-Control") := by
  rw [ResponseRule.applyTo, ResponseRule.apply]
  cases r.value with
  | none => rfl
  | some value => exact hreplaces fields "Cache-Control" value

theorem headerValue_eq_none_iff (cc : CacheControl) : cc.headerValue = none ↔ cc.directives = [] := by
  rw [headerValue, items, List.isEmpty_map]
  cases cc.directives <;> simp

/-! ## Rules are kept -/

theorem rules_after (book : RuleBook) (step : Step) : book.rules <+: (book.after step).rules := by
  cases step with
  | add id addition => exact List.prefix_rfl
  | setUp policy settings =>
      rw [after, setUp]
      cases ResponseRule.ofSource (policy.map book.policies.policy) settings with
      | ok r => exact List.prefix_append _ _
      | error fault => exact List.prefix_rfl

theorem rules_run (book : RuleBook) (steps : List Step) : book.rules <+: (book.run steps).rules := by
  induction steps generalizing book with
  | nil => exact List.prefix_rfl
  | cons step steps ih => exact (rules_after book step).trans (ih (book.after step))

theorem puts_of_rule (hreplaces : access.Replaces) (hrule : book.rules[rule]? = some r) :
    book.Puts access rule r.value := by
  intro later fields
  refine ⟨r, ?_, ?_, fun hnone => ?_⟩
  · obtain ⟨more, hmore⟩ := rules_run book later
    obtain ⟨hlt, -⟩ := List.getElem?_eq_some_iff.1 hrule
    rw [← hmore, List.getElem?_append_left hlt, hrule]
  · rw [read_applyTo hreplaces, ResponseRule.apply, Option.orElse_eq_orElse, Option.orElse_eq_or]
  · rw [ResponseRule.applyTo, hnone]

/-! ## Setting up -/

theorem setUp_ok {policy : Option Nat}
    (hrule : ResponseRule.ofSource (policy.map book.policies.policy) settings = .ok r)
    (hreplaces : access.Replaces) :
    ∃ rule, (book.setUp policy settings).1 = .ok rule ∧
      (book.setUp policy settings).2.Puts access rule r.value := by
  have hsetUp : book.setUp policy settings =
      (.ok book.rules.length, { book with rules := book.rules ++ [r] }) := by
    rw [setUp, hrule]
  rw [hsetUp]
  exact ⟨_, rfl, puts_of_rule hreplaces List.getElem?_concat_length⟩

theorem setUp_eq_error_iff {policy : Option Nat} : (book.setUp policy settings).1 = .error fault ↔
    ResponseRule.ofSource (policy.map book.policies.policy) settings = .error fault := by
  rw [setUp]
  cases ResponseRule.ofSource (policy.map book.policies.policy) settings <;> simp

theorem setUp_refused {policy : Option Nat} (hfault : (book.setUp policy settings).1 = .error fault) :
    (book.setUp policy settings).2 = book := by
  rw [setUp] at hfault ⊢
  cases hrule : ResponseRule.ofSource (policy.map book.policies.policy) settings with
  | ok r =>
      rw [hrule] at hfault
      cases hfault
  | error fault => rfl

theorem isGiven_iff (settings : Settings) : settings.isGiven = true ↔ settings ≠ {} := by
  constructor
  · rintro hgiven rfl
    cases hgiven
  · intro hne
    rw [← Bool.not_eq_false]
    intro hnone
    obtain ⟨maxAge, noCache, noStore, mustRevalidate, noTransform, cachePublic, cachePrivate,
      proxyRevalidate, sMaxAge⟩ := settings
    simp only [Settings.isGiven, Bool.or_eq_false_iff, Option.isSome_eq_false_iff,
      Option.isNone_iff_eq_none, and_assoc] at hnone
    obtain ⟨rfl, rfl, rfl, rfl, rfl, rfl, rfl, rfl, rfl⟩ := hnone
    exact hne rfl

theorem ofSource_policy_eq_error_iff (cc : CacheControl) :
    ResponseRule.ofSource (some cc) settings = .error fault ↔
      settings ≠ {} ∧ fault = .directivesTwice := by
  rw [← isGiven_iff, ResponseRule.ofSource]
  split
  · next hgiven => simp [hgiven, eq_comm]
  · next hnone => simp [hnone]

/-! ## Durations of settings -/

theorem secondsOf_cases (duration : Option Duration) :
    (∃ seconds, duration.bind Duration.fault? = none ∧ secondsOf duration = .ok seconds) ∨
      ∃ fault, duration.bind Duration.fault? = some fault ∧ secondsOf duration = .error fault := by
  cases duration with
  | none => exact .inl ⟨none, rfl, rfl⟩
  | some d =>
      rw [Option.bind_some, Duration.fault?, secondsOf]
      cases d.toSeconds with
      | ok n => exact .inl ⟨storedSeconds n, rfl, rfl⟩
      | error fault => exact .inr ⟨fault, rfl, rfl⟩

theorem ofSettings_cases (settings : Settings) :
    (∃ cc, settings.fault? = none ∧ ofSettings settings = .ok cc) ∨
      ∃ fault, settings.fault? = some fault ∧ ofSettings settings = .error fault := by
  rw [Settings.fault?]
  unfold ofSettings
  obtain ⟨maxAge, hnone, hmax⟩ | ⟨fault, hsome, hmax⟩ := secondsOf_cases settings.maxAge
  · rw [hmax, hnone, Option.none_or]
    obtain ⟨sMaxAge, hnone', hshared⟩ | ⟨fault, hsome, hshared⟩ := secondsOf_cases settings.sMaxAge
    · rw [hshared]
      exact .inl ⟨_, hnone', rfl⟩
    · rw [hshared]
      exact .inr ⟨fault, hsome, rfl⟩
  · rw [hmax, hsome]
    exact .inr ⟨fault, rfl, rfl⟩

theorem fault?_eq_none_iff (d : Duration) : d.fault? = none ↔ ∃ n, d.toSeconds = .ok n := by
  rw [Duration.fault?]
  cases d.toSeconds <;> simp

theorem settings_fault?_eq_none_iff (settings : Settings) : settings.fault? = none ↔
    ∀ d, settings.maxAge = some d ∨ settings.sMaxAge = some d → ∃ n, d.toSeconds = .ok n := by
  simp only [Settings.fault?, Option.or_eq_none_iff, Option.bind_eq_none_iff, fault?_eq_none_iff]
  constructor
  · rintro ⟨hmax, hshared⟩ d (hd | hd)
    · exact hmax d hd
    · exact hshared d hd
  · exact fun h => ⟨fun d hd => h d (.inl hd), fun d hd => h d (.inr hd)⟩

theorem ofSource_settings_eq_error_iff :
    ResponseRule.ofSource none settings = .error fault ↔ settings.fault? = some fault := by
  rw [ResponseRule.ofSource]
  obtain ⟨cc, hnone, hmade⟩ | ⟨first, hsome, hrefused⟩ := ofSettings_cases settings
  · simp [hmade, hnone, Except.map]
  · simp [hrefused, hsome, Except.map]

/-! ## From one source -/

/-- With a policy, a rule is refused just in case some setting is given too, whatever its value.  Without one
it is refused just in case a duration among the settings cannot be converted.  A rule that is set up puts into
each response what its policy, or the one of its settings, was written as at that time, and nothing that is
done with policies afterwards changes that. -/
theorem setUp_puts (hreplaces : access.Replaces) (book : RuleBook) (settings : Settings) :
    (∀ id cc, book.policies.held[id]? = some cc →
      (∀ fault, (book.setUp (some id) settings).1 = .error fault ↔
        settings ≠ {} ∧ fault = .directivesTwice) ∧
      (settings = {} → ∃ rule, (book.setUp (some id) settings).1 = .ok rule ∧
        (book.setUp (some id) settings).2.Puts access rule cc.headerValue)) ∧
    (∀ fault, (book.setUp none settings).1 = .error fault ↔ settings.fault? = some fault) ∧
    (settings.fault? = none ↔
      ∀ d, settings.maxAge = some d ∨ settings.sMaxAge = some d → ∃ n, d.toSeconds = .ok n) ∧
    (settings.fault? = none → ∃ cc rule, ofSettings settings = .ok cc ∧
      (book.setUp none settings).1 = .ok rule ∧
      (book.setUp none settings).2.Puts access rule cc.headerValue) ∧
    (∀ cc : CacheControl, cc.headerValue = none ↔ cc.directives = []) ∧
    ∀ policy fault, (book.setUp policy settings).1 = .error fault →
      (book.setUp policy settings).2 = book := by
  refine ⟨fun id cc hheld => ?_, ?_, settings_fault?_eq_none_iff settings, ?_, headerValue_eq_none_iff,
    fun _ _ => setUp_refused⟩
  · have hpolicy : (some id).map book.policies.policy = some cc := by
      rw [Option.map_some, Policies.policy, List.getD_eq_getElem?_getD, hheld]
      rfl
    refine ⟨fun fault => ?_, fun hnone => setUp_ok ?_ hreplaces⟩
    · rw [setUp_eq_error_iff, hpolicy, ofSource_policy_eq_error_iff]
    · rw [hpolicy, hnone]
      rfl
  · intro fault
    rw [setUp_eq_error_iff, Option.map_none, ofSource_settings_eq_error_iff]
  · intro hfault
    obtain ⟨cc, -, hmade⟩ | ⟨fault, hsome, -⟩ := ofSettings_cases settings
    · have hrule : ResponseRule.ofSource (none.map book.policies.policy) settings =
          .ok ⟨cc.headerValue⟩ := by
        rw [Option.map_none, ResponseRule.ofSource, hmade]
        rfl
      obtain ⟨rule, hrule, hputs⟩ := setUp_ok hrule hreplaces
      exact ⟨cc, rule, hmade, hrule, hputs⟩
    · rw [hfault] at hsome
      cases hsome

/-- A rule is set up, and then directives are added to its policy. -/
theorem setUp_puts_later_additions :
    let access : FieldAccess Headers := ⟨Headers.get?, Headers.set⟩
    let book : RuleBook := { policies := ⟨[{ maxAge := some 60 }]⟩ }
    let nan : Settings := { maxAge := some (.float .nan) }
    let zero : Settings := { sMaxAge := some (.seconds 0) }
    let later : List Step := [.add 0 .cachePublic, .add 0 (.sMaxAge (.seconds 5))]
    access.Replaces ∧ book.policies.held[0]? = some { maxAge := some 60 } ∧
      (book.setUp (some 0) nan).1 = .error .directivesTwice ∧
      (book.setUp (some 0) zero).1 = .error .directivesTwice ∧
      (book.setUp none nan).1 = .error .nanDuration ∧
      (((book.setUp (some 0) {}).2.run later).policies.policy 0).headerValue =
        some "max-age=60, public, s-maxage=5" ∧
      ∀ fields : Headers, ∃ rule r, (book.setUp (some 0) {}).1 = .ok rule ∧
        ((book.setUp (some 0) {}).2.run later).rules[rule]? = some r ∧
        (r.applyTo access fields).get? "Cache-Control" = some "max-age=60" := by
  intro access book nan zero later
  have hreplaces : access.Replaces := fun _ _ _ => Headers.get?_set_self
  have hheld : book.policies.held[0]? = some { maxAge := some 60 } := rfl
  have hgiven := fun settings => ((setUp_puts hreplaces book settings).1 0 _ hheld).1
  have hnan : (book.setUp none nan).1 = .error .nanDuration :=
    ((setUp_puts hreplaces book nan).2.1 _).2 rfl
  refine ⟨hreplaces, hheld, (hgiven nan _).2 ⟨(isGiven_iff nan).1 rfl, rfl⟩,
    (hgiven zero _).2 ⟨(isGiven_iff zero).1 rfl, rfl⟩, hnan, by decide, fun fields => ?_⟩
  obtain ⟨rule, hrule, hputs⟩ := ((setUp_puts hreplaces book {}).1 0 _ hheld).2 rfl
  obtain ⟨r, hkept, hread, -⟩ := hputs later fields
  exact ⟨rule, r, hrule, hkept, hread⟩

end RuleBook
end CacheControl
end Revalidation
