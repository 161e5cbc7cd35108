import Revalidation.CacheControl.Building

/-!
# Adding directives one after another

However many directives are added to a policy, and in whatever order, all that counts is which flags are
among them and which of the durations that could be converted came last.  So the calls can be put in another
order, and they can be put into the settings that the policy is made of.
-/

namespace Revalidation

def Duration.converted? (duration : Duration) : Option Duration :=
  match duration.toSeconds with
  | .ok _ => some duration
  | .error _ => none

namespace CacheControl

namespace Addition

def flag? : Addition → Option Directive
  | mustRevalidate => some .mustRevalidate
  | noTransform => some .noTransform
  | cachePublic => some .cachePublic
  | cachePrivate => some .cachePrivate
  | proxyRevalidate => some .proxyRevalidate
  | sMaxAge _ => none

def duration? : Addition → Option Duration
  | sMaxAge duration => some duration
  | _ => none

def fault? (a : Addition) : Option Fault :=
  match a.duration?.map Duration.toSeconds with
  | some (.error fault) => some fault
  | _ => none

def outcome (id : Nat) (a : Addition) : Except Fault Nat :=
  match a.fault? with
  | some fault => .error fault
  | none => .ok id

end Addition

def flagged (as : List Addition) (flag : Directive) : Bool := as.any (·.flag? == some flag)

def lastDuration? (as : List Addition) : Option Duration :=
  ((as.filterMap Addition.duration?).filterMap Duration.converted?).getLast?

def Settings.extend (settings : Settings) (as : List Addition) : Settings :=
  { settings with
    mustRevalidate := settings.mustRevalidate || flagged as .mustRevalidate
    noTransform := settings.noTransform || flagged as .noTransform
    cachePublic := settings.cachePublic || flagged as .cachePublic
    cachePrivate := settings.cachePrivate || flagged as .cachePrivate
    proxyRevalidate := settings.proxyRevalidate || flagged as .proxyRevalidate
    sMaxAge := (lastDuration? as).or settings.sMaxAge }

def sharedAfter (seconds : Option Int) : Option Duration → Option Int
  | some duration => duration.toSeconds.toOption.bind storedSeconds
  | none => seconds

def extend (cc : CacheControl) (as : List Addition) : CacheControl :=
  { cc with
    mustRevalidate := cc.mustRevalidate || flagged as .mustRevalidate
    noTransform := cc.noTransform || flagged as .noTransform
    cachePublic := cc.cachePublic || flagged as .cachePublic
    cachePrivate := cc.cachePrivate || flagged as .cachePrivate
    proxyRevalidate := cc.proxyRevalidate || flagged as .proxyRevalidate
    sMaxAge := sharedAfter cc.sMaxAge (lastDuration? as) }

variable {cc : CacheControl} {a : Addition} {as bs : List Addition} {settings : Settings}

theorem flagged_cons (a : Addition) (as : List Addition) (flag : Directive) :
    flagged (a :: as) flag = (flagged [a] flag || flagged as flag) := by
  simp [flagged]

theorem lastDuration?_cons (a : Addition) (as : List Addition) :
    lastDuration? (a :: as) = (lastDuration? as).or (lastDuration? [a]) := by
  rw [lastDuration?, ← List.singleton_append, List.filterMap_append, List.filterMap_append,
    List.getLast?_append]
  rfl

theorem sharedAfter_or (seconds : Option Int) (first second : Option Duration) :
    sharedAfter seconds (second.or first) = sharedAfter (sharedAfter seconds first) second := by
  cases second <;> rfl

theorem extend_nil (cc : CacheControl) : cc.extend [] = cc := by
  simp [extend, flagged, lastDuration?, sharedAfter]

theorem extend_cons (cc : CacheControl) (a : Addition) (as : List Addition) :
    cc.extend (a :: as) = (cc.extend [a]).extend as := by
  simp only [extend, flagged_cons a as, lastDuration?_cons a as, sharedAfter_or, Bool.or_assoc]

/-! ## One addition -/

theorem add_flag {flag : Directive} (hflag : a.flag? = some flag) :
    cc.add a = .ok (cc.extend [a]) := by
  have hlast : lastDuration? [a] = none := by
    cases a with
    | sMaxAge => cases hflag
    | _ => rfl
  cases a with
  | sMaxAge => cases hflag
  | _ => simp [add, extend, flagged, Addition.flag?, hlast, sharedAfter]

theorem extend_duration (cc : CacheControl) (duration : Duration) :
    cc.extend [.sMaxAge duration] =
      { cc with sMaxAge := sharedAfter cc.sMaxAge duration.converted? } := by
  have hlast : lastDuration? [.sMaxAge duration] = duration.converted? := by
    simp only [lastDuration?, Addition.duration?, List.filterMap_cons, List.filterMap_nil]
    cases duration.converted? <;> rfl
  simp [extend, flagged, Addition.flag?, hlast]

theorem add_cases (cc : CacheControl) (a : Addition) :
    (a.fault? = none ∧ cc.add a = .ok (cc.extend [a])) ∨
      ∃ fault, a.fault? = some fault ∧ cc.add a = .error fault ∧ cc.extend [a] = cc := by
  cases a with
  | sMaxAge duration =>
      rw [extend_duration, add, Addition.fault?, Addition.duration?, Option.map_some, Duration.converted?]
      cases hseconds : duration.toSeconds with
      | ok n =>
          have hshared : sharedAfter cc.sMaxAge (some duration) = storedSeconds n := by
            rw [sharedAfter, hseconds]
            rfl
          left
          dsimp only
          rw [hshared]
          exact ⟨rfl, rfl⟩
      | error fault =>
          right
          exact ⟨fault, rfl, rfl, rfl⟩
  | _ => exact .inl ⟨rfl, add_flag rfl⟩

/-! ## Settings -/

theorem secondsOf_extend {shared : Option Duration} {seconds : Option Int}
    (hseconds : secondsOf shared = .ok seconds) (as : List Addition) :
    secondsOf ((lastDuration? as).or shared) = .ok (sharedAfter seconds (lastDuration? as)) := by
  cases hlast : lastDuration? as with
  | none => exact hseconds
  | some duration =>
      have hconverted : ∃ n, duration.toSeconds = .ok n := by
        obtain ⟨given, -, hgiven⟩ := List.mem_filterMap.mp (List.mem_of_getLast? hlast)
        rw [Duration.converted?] at hgiven
        cases h : given.toSeconds with
        | error fault =>
            rw [h] at hgiven
            cases hgiven
        | ok n =>
            rw [h] at hgiven
            cases hgiven
            exact ⟨n, h⟩
      obtain ⟨n, hn⟩ := hconverted
      rw [Option.some_or, secondsOf, sharedAfter, hn]
      rfl

theorem ofSettings_extend (hmade : ofSettings settings = .ok cc) (as : List Addition) :
    ofSettings (settings.extend as) = .ok (cc.extend as) := by
  unfold ofSettings at hmade ⊢
  cases hmax : secondsOf settings.maxAge with
  | error fault =>
      rw [hmax] at hmade
      cases hmade
  | ok maxAge =>
      cases hshared : secondsOf settings.sMaxAge with
      | error fault =>
          rw [hmax, hshared] at hmade
          cases hmade
      | ok seconds =>
          rw [hmax, hshared] at hmade
          cases hmade
          have hextended := secondsOf_extend hshared as
          simp only [Settings.extend, hmax, hextended]
          rfl

theorem Origin.policy_eq {origin : Origin} (hsettings : origin.settings? = some settings) :
    origin.policy = ofSettings settings := by
  cases origin with
  | received => cases hsettings
  | _ =>
      cases hsettings
      rfl

/-! ## Other orders -/

theorem flagged_perm (hperm : as.Perm bs) (flag : Directive) : flagged as flag = flagged bs flag :=
  hperm.any_eq

theorem extend_perm (hperm : as.Perm bs)
    (hdurations : as.filterMap Addition.duration? = bs.filterMap Addition.duration?) :
    cc.extend as = cc.extend bs := by
  simp only [extend, flagged_perm hperm, lastDuration?, hdurations]

end CacheControl

namespace Policies

open CacheControl

/-- Adds directives one after another to the policy with a number, going on after one that is refused: what
each call gave back, and the policies after all of them. -/
def addAll (policies : Policies) (id : Nat) : List Addition → List (Except Fault Nat) × Policies
  | [] => ([], policies)
  | a :: rest =>
    let (outcome, policies) := policies.add id a
    let (outcomes, policies) := policies.addAll id rest
    (outcome :: outcomes, policies)

variable {policies : Policies} {id : Nat} {cc : CacheControl}

theorem put_self (hheld : policies.held[id]? = some cc) : policies.put id cc = policies := by
  obtain ⟨hid, rfl⟩ := List.getElem?_eq_some_iff.mp hheld
  rw [put, List.set_getElem_self]

theorem held_put (hheld : policies.held[id]? = some cc) (other : CacheControl) :
    (policies.put id other).held[id]? = some other := by
  obtain ⟨hid, -⟩ := List.getElem?_eq_some_iff.mp hheld
  exact List.getElem?_set_self hid

theorem put_put (policies : Policies) (id : Nat) (cc other : CacheControl) :
    (policies.put id cc).put id other = policies.put id other := by
  rw [put, put, put, List.set_set]

theorem add_held (hheld : policies.held[id]? = some cc) (a : Addition) :
    policies.add id a = (a.outcome id, policies.put id (cc.extend [a])) := by
  have hpolicy : policies.policy id = cc := by
    rw [policy, List.getD_eq_getElem?_getD, hheld]
    rfl
  rw [add, hpolicy, Addition.outcome]
  obtain ⟨hfault, hadd⟩ | ⟨fault, hfault, hadd, hsame⟩ := add_cases cc a
  · rw [hadd, hfault]
  · rw [hadd, hfault, hsame, put_self hheld]

theorem add_refused {a : Addition} {fault : Fault} (hheld : policies.held[id]? = some cc)
    (hfault : a.fault? = some fault) : policies.add id a = (.error fault, policies) := by
  obtain ⟨hnone, -⟩ | ⟨_, -, -, hsame⟩ := add_cases cc a
  · rw [hfault] at hnone
    cases hnone
  · rw [add_held hheld, Addition.outcome, hfault, hsame, put_self hheld]

theorem addAll_held (hheld : policies.held[id]? = some cc) (as : List Addition) :
    policies.addAll id as = (as.map (Addition.outcome id), policies.put id (cc.extend as)) := by
  induction as generalizing policies cc with
  | nil => rw [addAll, extend_nil, put_self hheld, List.map_nil]
  | cons a as ih =>
      rw [addAll, add_held hheld]
      dsimp only
      rw [ih (held_put hheld _), put_put, ← extend_cons, List.map_cons]

/-- Additions to a policy give that policy back, except that those that cannot be converted are refused and
change nothing.  Together they come to the flags among them and the last duration that can be converted, so
all orders that keep the durations in theirs lead to the same policy.  It is the policy that is made of the
settings with these additions, if the one before was made of settings. -/
theorem addAll_extends :
    (∀ (policies : Policies) (id : Nat) (cc : CacheControl), policies.held[id]? = some cc →
      (∀ a fault, a.fault? = some fault → policies.add id a = (.error fault, policies)) ∧
      (∀ as, policies.addAll id as = (as.map (Addition.outcome id), policies.put id (cc.extend as))) ∧
      ∀ as bs, as.Perm bs → as.filterMap Addition.duration? = bs.filterMap Addition.duration? →
        (policies.addAll id as).2 = (policies.addAll id bs).2 ∧
        (cc.extend as == cc.extend bs) = true ∧
        (cc.extend as).headerValue = (cc.extend bs).headerValue) ∧
    ∀ (origin : Origin) (settings : Settings) (cc : CacheControl) (as : List Addition),
      origin.settings? = some settings → origin.policy = .ok cc →
      ofSettings (settings.extend as) = .ok (cc.extend as) := by
  refine ⟨fun policies id cc hheld => ⟨?_, addAll_held hheld, ?_⟩, ?_⟩
  · intro a fault hfault
    exact add_refused hheld hfault
  · intro as bs hperm hdurations
    rw [addAll_held hheld as, addAll_held hheld bs, extend_perm hperm hdurations]
    exact ⟨rfl, beq_self_eq_true (cc.extend bs).items, rfl⟩
  · intro origin settings cc as hsettings hmade
    rw [Origin.policy_eq hsettings] at hmade
    exact ofSettings_extend hmade as

theorem addAll_extends_refused :
    let origin : Origin := .maxAge (.seconds 60)
    let cc : CacheControl := { maxAge := some 60 }
    let policies : Policies := ⟨[.empty, cc]⟩
    let nan : Addition := .sMaxAge (.float .nan)
    let as : List Addition := [.sMaxAge (.seconds 600), .cachePublic, nan]
    let bs : List Addition := [.cachePublic, .sMaxAge (.seconds 600), nan]
    policies.held[1]? = some cc ∧ nan.fault? = some .nanDuration ∧
      policies.add 1 nan = (.error .nanDuration, policies) ∧
      (policies.addAll 1 as).1 = [.ok 1, .ok 1, .error .nanDuration] ∧
      as.Perm bs ∧ as.filterMap Addition.duration? = bs.filterMap Addition.duration? ∧
      (policies.addAll 1 as).2 = (policies.addAll 1 bs).2 ∧
      origin.settings? = some { maxAge := some (.seconds 60) } ∧ origin.policy = .ok cc ∧
      ofSettings (Settings.extend { maxAge := some (.seconds 60) } as) = .ok (cc.extend as) ∧
      (cc.extend as).headerValue = some "max-age=60, public, s-maxage=600" := by
  intro origin cc policies nan as bs
  have hheld : policies.held[1]? = some cc := rfl
  have hfault : nan.fault? = some .nanDuration := rfl
  have hperm : as.Perm bs := .swap _ _ _
  have hdurations : as.filterMap Addition.duration? = bs.filterMap Addition.duration? := rfl
  have hsettings : origin.settings? = some { maxAge := some (.seconds 60) } := rfl
  have hmade : origin.policy = .ok cc := rfl
  obtain ⟨hadditions, horigin⟩ := addAll_extends
  obtain ⟨hrefused, hall, horder⟩ := hadditions policies 1 cc hheld
  refine ⟨hheld, hfault, hrefused nan _ hfault, ?_, hperm, hdurations, (horder as bs hperm hdurations).1,
    hsettings, hmade, horigin origin _ cc as hsettings hmade, by decide⟩
  rw [hall as]
  rfl

end Policies
end Revalidation
