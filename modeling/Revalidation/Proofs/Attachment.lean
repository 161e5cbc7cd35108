import Revalidation.Context.Registry

/-!
# Contexts for good

The context of a target is kept in one place: with its request, or in the scope that it is or exposes.  A
scope gets a fresh context the first time it is asked for one, and no later use of any target takes it away.
So targets share a context as long as they live, or they never do, and what is done to one target can only be
seen in the context of its place.
-/

namespace Revalidation

inductive Place where
  /-- The context of a number belongs to a request. -/
  | own (context : Nat)
  | scope (id : Nat)
  deriving DecidableEq, Repr

def Target.place? : Target → Option Place
  | request _ context => some (.own context)
  | scope id => some (.scope id)
  | carrier id => some (.scope id)
  | object _ => none
  | plain _ _ => none

def Target.placeless? : Target → Option String
  | object typeName => some typeName
  | plain typeName _ => some typeName
  | _ => none

/-- A use of a target: its context is asked for, or changed. -/
inductive Use where
  | find (target : Target)
  | change (target : Target) (change : Context.Change)

def Use.target : Use → Target
  | find target => target
  | change target _ => target

def Use.apply : Use → Context → Context
  | .find _, context => context
  | .change _ edit, context => context.apply edit

/-- Every flag that stays once it is set is still set in the later context. -/
structure Context.Stays (context later : Context) : Prop where
  cachingDisabled : context.cachingDisabled = true → later.cachingDisabled = true
  asyncDispatch : context.asyncDispatch = true → later.asyncDispatch = true

theorem Context.Stays.refl (context : Context) : context.Stays context := ⟨id, id⟩

theorem Context.Stays.trans {a b c : Context} (hab : a.Stays b) (hbc : b.Stays c) : a.Stays c :=
  ⟨hbc.cachingDisabled ∘ hab.cachingDisabled, hbc.asyncDispatch ∘ hab.asyncDispatch⟩

theorem Context.stays_apply (context : Context) (u : Use) : context.Stays (u.apply context) := by
  cases u with
  | find target => exact .refl context
  | change target change =>
      cases change with
      | disableCaching => exact ⟨fun _ => rfl, id⟩
      | startAsync => exact ⟨id, id⟩
      | beginAsyncDispatch => exact ⟨id, fun _ => rfl⟩

namespace Registry

def after? (registry : Registry) : Use → Except Fault Registry
  | .find target => (registry.find target).map Prod.snd
  | .change target change => registry.change target change

/-- The registry after a use of a target.  One that is refused is passed over. -/
def after (registry : Registry) (u : Use) : Registry :=
  match registry.after? u with
  | .ok later => later
  | .error _ => registry

def run (registry : Registry) (uses : List Use) : Registry := uses.foldl after registry

def kept? (registry : Registry) : Place → Option Nat
  | .own context => some context
  | .scope id =>
    match (registry.scope id).slot with
    | .context context => some context
    | _ => none

def findAt (registry : Registry) : Place → Nat × Registry
  | .own context => (context, registry)
  | .scope id => registry.findIn id

def attach (registry : Registry) (id : Nat) : Registry where
  contexts := registry.contexts ++ [{}]
  scopes := registry.scopes.modify id fun entries =>
    { entries with slot := .context registry.contexts.length }

def applyAt (registry : Registry) (context : Nat) (u : Use) : Registry :=
  { registry with contexts := registry.contexts.modify context u.apply }

def held? (registry : Registry) (target : Target) : Option Nat := target.place?.bind registry.kept?

def Has (registry : Registry) : Place → Prop
  | .own context => context < registry.contexts.length
  | .scope id => id < registry.scopes.length

/-- The targets have their places in the registry, and scopes hold contexts that there are. -/
structure Sound (registry : Registry) (targets : List Target) : Prop where
  has : ∀ t ∈ targets, ∀ p, t.place? = some p → registry.Has p
  kept_lt : ∀ p i, registry.Has p → registry.kept? p = some i → i < registry.contexts.length

variable {r s t : Registry} {p q : Place} {i j k : Nat} {target : Target} {targets : List Target}
  {u : Use} {uses : List Use} {c : Context} {fault : Fault}

/-! ## Looking a context up -/

theorem find_of_place (hplace : target.place? = some p) : r.find target = .ok (r.findAt p) := by
  cases target <;> cases hplace <;> rfl

theorem find_eq_ok_iff : r.find target = .ok (i, s) ↔
    ∃ p, target.place? = some p ∧ r.findAt p = (i, s) := by
  cases target <;> simp [find, findAt, Target.place?]

theorem find_of_placeless {typeName : String} (h : target.placeless? = some typeName) :
    r.find target = .error (.noContext typeName) := by
  cases target <;> cases h <;> rfl

theorem place_or_placeless (target : Target) :
    (∃ p, target.place? = some p ∧ target.placeless? = none) ∨
      ∃ typeName, target.placeless? = some typeName ∧ target.place? = none := by
  cases target with
  | request request context => exact .inl ⟨.own context, rfl, rfl⟩
  | scope id => exact .inl ⟨.scope id, rfl, rfl⟩
  | carrier id => exact .inl ⟨.scope id, rfl, rfl⟩
  | object typeName => exact .inr ⟨typeName, rfl, rfl⟩
  | plain typeName value => exact .inr ⟨typeName, rfl, rfl⟩

theorem findAt_kept (hkept : r.kept? p = some i) : r.findAt p = (i, r) := by
  cases p with
  | own context =>
      cases hkept
      rfl
  | scope id =>
      rw [kept?] at hkept
      rw [findAt, findIn]
      cases hslot : (r.scope id).slot with
      | absent =>
          rw [hslot] at hkept
          cases hkept
      | foreign value =>
          rw [hslot] at hkept
          cases hkept
      | context context =>
          rw [hslot] at hkept
          cases hkept
          rfl

theorem findAt_vacant (hkept : r.kept? p = none) :
    ∃ id, p = .scope id ∧ r.findAt p = (r.contexts.length, r.attach id) := by
  cases p with
  | own context => cases hkept
  | scope id =>
      refine ⟨id, rfl, ?_⟩
      rw [kept?] at hkept
      rw [findAt, findIn]
      cases hslot : (r.scope id).slot with
      | absent => rfl
      | foreign value => rfl
      | context context =>
          rw [hslot] at hkept
          cases hkept

theorem scope_attach {id : Nat} (hid : id < r.scopes.length) (j : Nat) : (r.attach id).scope j =
    if j = id then { r.scope id with slot := .context r.contexts.length } else r.scope j := by
  rw [scope, attach, List.getD_eq_getElem?_getD, List.getElem?_modify]
  split
  · next hj =>
    subst hj
    simp [scope, hid]
  · next hj =>
    simp [scope, Ne.symm hj]

theorem kept?_attach {id : Nat} (hid : id < r.scopes.length) (p : Place) :
    (r.attach id).kept? p = if p = .scope id then some r.contexts.length else r.kept? p := by
  cases p with
  | own context => rfl
  | scope j =>
      rw [kept?, scope_attach hid]
      by_cases hj : j = id
      · simp [hj]
      · simp [hj, kept?]

theorem kept?_applyAt (r : Registry) (i : Nat) (u : Use) (p : Place) :
    (r.applyAt i u).kept? p = r.kept? p := by
  cases p <;> rfl

/-! ## Uses one by one -/

theorem after?_of_place (hplace : u.target.place? = some p) :
    r.after? u = .ok ((r.findAt p).2.applyAt (r.findAt p).1 u) := by
  cases u with
  | find target =>
      rw [Use.target] at hplace
      have hsame : Use.apply (.find target) = id := rfl
      rw [after?, find_of_place hplace, applyAt, hsame, List.modify_id]
      rfl
  | change target change =>
      rw [Use.target] at hplace
      rw [after?, Registry.change, find_of_place hplace]
      rfl

theorem after?_of_placeless {typeName : String} (h : u.target.placeless? = some typeName) :
    r.after? u = .error (.noContext typeName) := by
  cases u with
  | find target =>
      rw [Use.target] at h
      rw [after?, find_of_placeless h]
      rfl
  | change target change =>
      rw [Use.target] at h
      rw [after?, Registry.change, find_of_placeless h]
      rfl

theorem after_of_place (hplace : u.target.place? = some p) :
    r.after u = (r.findAt p).2.applyAt (r.findAt p).1 u := by
  rw [after, after?_of_place hplace]

theorem after_of_error (herror : r.after? u = .error fault) : r.after u = r := by
  rw [after, herror]

theorem after?_eq_error_iff : r.after? u = .error fault ↔
    ∃ typeName, u.target.placeless? = some typeName ∧ fault = .noContext typeName := by
  obtain ⟨p, hplace, hnone⟩ | ⟨typeName, htype, -⟩ := place_or_placeless u.target
  · simp [after?_of_place hplace, hnone]
  · simp [after?_of_placeless htype, htype, eq_comm]

/-! ## What a later registry keeps -/

/-- What uses of targets leave of a registry. -/
structure Onward (registry later : Registry) : Prop where
  scopes : later.scopes.length = registry.scopes.length
  contexts : registry.contexts.length ≤ later.contexts.length
  kept : ∀ p i, registry.kept? p = some i → later.kept? p = some i
  /-- A place that gets a context gets one that was not there before. -/
  fresh : ∀ p i, registry.kept? p = none → later.kept? p = some i →
    registry.contexts.length ≤ i ∧ i < later.contexts.length
  apart : ∀ p q i, registry.kept? p = none → registry.kept? q = none →
    later.kept? p = some i → later.kept? q = some i → p = q
  stays : ∀ (k : Nat) (c : Context), registry.contexts[k]? = some c →
    ∃ c', later.contexts[k]? = some c' ∧ c.Stays c'

namespace Onward

theorem kept_eq (h : r.Onward s) (hr : r.kept? p = some j) (hs : s.kept? p = some i) : j = i :=
  Option.some.inj ((h.kept p j hr).symm.trans hs)

theorem refl (r : Registry) : r.Onward r where
  scopes := rfl
  contexts := Nat.le_refl _
  kept _ _ hkept := hkept
  fresh _ _ hvacant hkept := by rw [hvacant] at hkept; cases hkept
  apart _ _ _ hvacant _ hkept _ := by rw [hvacant] at hkept; cases hkept
  stays _ c hc := ⟨c, hc, .refl c⟩

theorem trans (hrs : r.Onward s) (hst : s.Onward t) : r.Onward t where
  scopes := hst.scopes.trans hrs.scopes
  contexts := Nat.le_trans hrs.contexts hst.contexts
  kept p i hkept := hst.kept p i (hrs.kept p i hkept)
  fresh p i hvacant hkept := by
    cases hs : s.kept? p with
    | none =>
        obtain ⟨hle, hlt⟩ := hst.fresh p i hs hkept
        exact ⟨Nat.le_trans hrs.contexts hle, hlt⟩
    | some j =>
        obtain rfl : j = i := hst.kept_eq hs hkept
        obtain ⟨hle, hlt⟩ := hrs.fresh p j hvacant hs
        exact ⟨hle, Nat.lt_of_lt_of_le hlt hst.contexts⟩
  apart p q i hp hq hip hiq := by
    -- One of the two can have been there in between only if both were: numbers in use stay below `s`.
    cases hsp : s.kept? p with
    | none =>
        cases hsq : s.kept? q with
        | none => exact hst.apart p q i hsp hsq hip hiq
        | some j =>
            obtain rfl : j = i := hst.kept_eq hsq hiq
            exact absurd (hst.fresh p j hsp hip).1 (Nat.not_le.2 (hrs.fresh q j hq hsq).2)
    | some j =>
        obtain rfl : j = i := hst.kept_eq hsp hip
        cases hsq : s.kept? q with
        | none => exact absurd (hst.fresh q j hsq hiq).1 (Nat.not_le.2 (hrs.fresh p j hp hsp).2)
        | some k =>
            obtain rfl : k = j := hst.kept_eq hsq hiq
            exact hrs.apart p q k hp hq hsp hsq
  stays k c hc := by
    obtain ⟨c', hc', hstays⟩ := hrs.stays k c hc
    obtain ⟨c'', hc'', hstays'⟩ := hst.stays k c' hc'
    exact ⟨c'', hc'', hstays.trans hstays'⟩

theorem has (h : r.Onward s) (hhas : r.Has p) : s.Has p := by
  cases p with
  | own context => exact Nat.lt_of_lt_of_le hhas h.contexts
  | scope id => exact Nat.lt_of_lt_of_eq hhas h.scopes.symm

theorem has_iff_scope (h : r.Onward s) {id : Nat} : s.Has (.scope id) ↔ r.Has (.scope id) := by
  rw [Has, Has, h.scopes]

end Onward

theorem onward_attach {id : Nat} (hid : id < r.scopes.length) (hvacant : r.kept? (.scope id) = none) :
    r.Onward (r.attach id) where
  scopes := by simp [attach]
  contexts := by simp [attach]
  kept p i hkept := by
    rw [kept?_attach hid]
    split
    · next hp => rw [hp, hvacant] at hkept; cases hkept
    · exact hkept
  fresh p i hp hkept := by
    rw [kept?_attach hid] at hkept
    split at hkept
    · cases hkept
      simp [attach]
    · rw [hp] at hkept
      cases hkept
  apart p q i hp hq hip hiq := by
    rw [kept?_attach hid] at hip hiq
    split at hip
    · next hpid =>
      split at hiq
      · next hqid => rw [hpid, hqid]
      · rw [hq] at hiq
        cases hiq
    · rw [hp] at hip
      cases hip
  stays k c hc := by
    refine ⟨c, ?_, .refl c⟩
    rw [attach, List.getElem?_append_left (List.getElem?_eq_some_iff.1 hc).1, hc]

theorem onward_applyAt (r : Registry) (i : Nat) (u : Use) : r.Onward (r.applyAt i u) where
  scopes := rfl
  contexts := by simp [applyAt]
  kept p j hkept := by rw [kept?_applyAt, hkept]
  fresh p j hp hkept := by rw [kept?_applyAt, hp] at hkept; cases hkept
  apart p q j hp _ hjp _ := by rw [kept?_applyAt, hp] at hjp; cases hjp
  stays k c hc := by
    rw [applyAt, List.getElem?_modify, hc]
    split
    · exact ⟨u.apply c, rfl, c.stays_apply u⟩
    · exact ⟨c, rfl, .refl c⟩

theorem onward_findAt (hhas : r.Has p) : r.Onward (r.findAt p).2 := by
  cases hkept : r.kept? p with
  | none =>
      obtain ⟨id, rfl, hfind⟩ := findAt_vacant hkept
      rw [hfind]
      exact onward_attach hhas hkept
  | some i =>
      rw [findAt_kept hkept]
      exact .refl r

theorem kept?_findAt (hhas : r.Has p) : (r.findAt p).2.kept? p = some (r.findAt p).1 := by
  cases hkept : r.kept? p with
  | none =>
      obtain ⟨id, rfl, hfind⟩ := findAt_vacant hkept
      rw [hfind, kept?_attach hhas, if_pos rfl]
  | some i => rw [findAt_kept hkept, hkept]

theorem onward_after (hhas : ∀ p, u.target.place? = some p → r.Has p) : r.Onward (r.after u) := by
  obtain ⟨p, hplace, -⟩ | ⟨typeName, htype, -⟩ := place_or_placeless u.target
  · rw [after_of_place hplace]
    exact (onward_findAt (hhas p hplace)).trans (onward_applyAt _ _ u)
  · rw [after_of_error (after?_of_placeless htype)]
    exact .refl r

theorem onward_run (hhas : ∀ u ∈ uses, ∀ p, u.target.place? = some p → r.Has p) :
    r.Onward (r.run uses) := by
  induction uses generalizing r with
  | nil => exact .refl r
  | cons u uses ih =>
      have hfirst : r.Onward (r.after u) := onward_after (hhas u List.mem_cons_self)
      refine hfirst.trans (ih fun v hv p hp => hfirst.has ?_)
      exact hhas v (List.mem_cons_of_mem u hv) p hp

theorem Sound.onward (hsound : r.Sound targets) (h : r.Onward s) : s.Sound targets where
  has t ht p hp := h.has (hsound.has t ht p hp)
  kept_lt p i hhas hkept := by
    cases p with
    | own context =>
        cases hkept
        exact hhas
    | scope id =>
        cases hr : r.kept? (.scope id) with
        | none => exact (h.fresh _ i hr hkept).2
        | some j =>
            obtain rfl : j = i := h.kept_eq hr hkept
            exact Nat.lt_of_lt_of_le (hsound.kept_lt _ j (h.has_iff_scope.1 hhas) hr) h.contexts

theorem Sound.onward_run (hsound : r.Sound targets) (huses : ∀ u ∈ uses, u.target ∈ targets) :
    r.Onward (r.run uses) :=
  Registry.onward_run fun u hu => hsound.has u.target (huses u hu)

/-- Where a context was found it stays. -/
theorem Sound.found (hsound : r.Sound targets) (htarget : target ∈ targets)
    (hfind : r.find target = .ok (i, s)) :
    r.Onward s ∧ ∃ p, target.place? = some p ∧ s.kept? p = some i := by
  obtain ⟨p, hplace, hp⟩ := find_eq_ok_iff.1 hfind
  have hhas : r.Has p := hsound.has target htarget p hplace
  have hs := onward_findAt hhas
  have hkept := kept?_findAt hhas
  rw [hp] at hs hkept
  exact ⟨hs, p, hplace, hkept⟩

/-- Two places that have contexts later have the same one only if they are one place, or had the same one
all along. -/
theorem Onward.eq_iff (h : r.Onward s) (hlt : ∀ i, r.kept? p = some i → i < r.contexts.length)
    (hlt' : ∀ i, r.kept? q = some i → i < r.contexts.length) (hp : s.kept? p = some i)
    (hq : s.kept? q = some j) :
    i = j ↔ p = q ∨ ∃ k, r.kept? p = some k ∧ r.kept? q = some k := by
  constructor
  · rintro rfl
    cases hrp : r.kept? p with
    | none =>
        cases hrq : r.kept? q with
        | none => exact .inl (h.apart p q i hrp hrq hp hq)
        | some k =>
            obtain rfl : k = i := h.kept_eq hrq hq
            exact absurd (h.fresh p k hrp hp).1 (Nat.not_le.2 (hlt' k hrq))
    | some k =>
        obtain rfl : k = i := h.kept_eq hrp hp
        cases hrq : r.kept? q with
        | none => exact absurd (h.fresh q k hrq hq).1 (Nat.not_le.2 (hlt k hrp))
        | some l =>
            obtain rfl : l = k := h.kept_eq hrq hq
            exact .inr ⟨l, rfl, rfl⟩
  · rintro (rfl | ⟨k, hrp, hrq⟩)
    · exact Option.some.inj (hp.symm.trans hq)
    · obtain rfl : k = i := h.kept_eq hrp hp
      exact h.kept_eq hrq hq

/-! ## What a use does to the contexts -/

theorem contexts_findAt (hk : k ≠ (r.findAt p).1) :
    (r.findAt p).2.contexts[k]? = r.contexts[k]? := by
  cases hkept : r.kept? p with
  | none =>
      obtain ⟨id, rfl, hfind⟩ := findAt_vacant hkept
      rw [hfind] at hk ⊢
      rcases Nat.lt_or_gt_of_ne hk with hlt | hgt
      · exact List.getElem?_append_left hlt
      · rw [List.getElem?_eq_none (Nat.le_of_lt hgt), List.getElem?_eq_none (by simpa [attach])]
  | some i => rw [findAt_kept hkept]

theorem context_findAt (r : Registry) (p : Place) :
    (r.findAt p).2.context (r.findAt p).1 = r.context (r.findAt p).1 := by
  cases hkept : r.kept? p with
  | none =>
      obtain ⟨id, rfl, hfind⟩ := findAt_vacant hkept
      rw [hfind]
      simp [context, attach]
  | some i => rw [findAt_kept hkept]

theorem findAt_lt (hlt : ∀ i, r.kept? p = some i → i < r.contexts.length) :
    (r.findAt p).1 < (r.findAt p).2.contexts.length := by
  cases hkept : r.kept? p with
  | none =>
      obtain ⟨id, rfl, hfind⟩ := findAt_vacant hkept
      rw [hfind]
      simp [attach]
  | some i =>
      rw [findAt_kept hkept]
      exact hlt i hkept

theorem contexts_after (hplace : u.target.place? = some p) (hk : k ≠ (r.findAt p).1) :
    (r.after u).contexts[k]? = r.contexts[k]? := by
  rw [after_of_place hplace, ← contexts_findAt hk]
  exact List.getElem?_modify_ne _ _ (Ne.symm hk)

theorem context_after (hplace : u.target.place? = some p)
    (hlt : ∀ i, r.kept? p = some i → i < r.contexts.length) :
    (r.after u).context (r.findAt p).1 = u.apply (r.context (r.findAt p).1) := by
  have hin := List.getElem?_eq_getElem (findAt_lt hlt)
  rw [after_of_place hplace, ← context_findAt]
  simp only [context, applyAt, List.getD_eq_getElem?_getD, List.getElem?_modify_eq, hin]
  rfl

/-! ## Contexts for good -/

/-- A target that has a context keeps it, whatever is done later to which targets.  Two targets have one
context just in case they have one place, or had one context before.  A use of a target leaves it with the
context that it would have got before, and changes no other one; a flag that stays set is never taken back.
What has no place for a context is refused, and then nothing changes. -/
theorem attached_for_good (hsound : r.Sound targets) (uses later : List Use)
    (huses : ∀ u ∈ uses, u.target ∈ targets) (hlater : ∀ u ∈ later, u.target ∈ targets) :
    (∀ a ∈ targets, ∀ b ∈ targets, ∀ i s, (r.run uses).find a = .ok (i, s) →
      (a.place? = b.place? → (s.run later).find b = .ok (i, s.run later)) ∧
      ∀ j s', (s.run later).find b = .ok (j, s') →
        (i = j ↔ a.place? = b.place? ∨ ∃ k, r.held? a = some k ∧ r.held? b = some k)) ∧
    (∀ u : Use, u.target ∈ targets → ∀ i s, (r.run uses).find u.target = .ok (i, s) →
      ((r.run uses).after u).find u.target = .ok (i, (r.run uses).after u) ∧
      ((r.run uses).after u).context i = u.apply ((r.run uses).context i) ∧
      ∀ k ≠ i, ((r.run uses).after u).contexts[k]? = (r.run uses).contexts[k]?) ∧
    (∀ (k : Nat) (c : Context), (r.run uses).contexts[k]? = some c →
      ∃ c', ((r.run uses).run later).contexts[k]? = some c' ∧ c.Stays c') ∧
    ∀ (u : Use) (fault : Fault),
      ((r.run uses).after? u = .error fault ↔
        ∃ typeName, u.target.placeless? = some typeName ∧ fault = .noContext typeName) ∧
      ((r.run uses).after? u = .error fault → (r.run uses).after u = r.run uses) := by
  have honward : r.Onward (r.run uses) := hsound.onward_run huses
  have hsound' : (r.run uses).Sound targets := hsound.onward honward
  refine ⟨fun a ha b hb i s hfind => ?_, fun u hu i s hfind => ?_, fun k c hc => ?_,
    fun u fault => ⟨after?_eq_error_iff, after_of_error⟩⟩
  · obtain ⟨hs, p, hplace, hkept⟩ := hsound'.found ha hfind
    have hrest : s.Onward (s.run later) := (hsound'.onward hs).onward_run hlater
    refine ⟨fun hab => ?_, fun j s' hfind' => ?_⟩
    · rw [find_of_place (hab ▸ hplace), findAt_kept (hrest.kept p i hkept)]
    · have hthere := honward.trans (hs.trans hrest)
      obtain ⟨hs', q, hplace', hkept'⟩ := (hsound.onward hthere).found hb hfind'
      rw [held?, held?, hplace, hplace', Option.some_inj]
      exact (hthere.trans hs').eq_iff (fun i => hsound.kept_lt p i (hsound.has a ha p hplace))
        (fun i => hsound.kept_lt q i (hsound.has b hb q hplace'))
        (hs'.kept p i (hrest.kept p i hkept)) hkept'
  · obtain ⟨p, hplace, hp⟩ := find_eq_ok_iff.1 hfind
    obtain rfl : i = ((r.run uses).findAt p).1 := (congrArg Prod.fst hp).symm
    have hhas := hsound'.has u.target hu p hplace
    refine ⟨?_, context_after hplace fun i => hsound'.kept_lt p i hhas,
      fun k hk => contexts_after hplace hk⟩
    rw [find_of_place hplace, after_of_place hplace]
    exact congrArg Except.ok (findAt_kept ((kept?_applyAt _ _ u p).trans (kept?_findAt hhas)))
  · exact (hsound'.onward_run hlater).stays k c hc

/-- A carrier and its scope, where something else was in the way of the context at first. -/
theorem attached_for_good_carrier :
    let r : Registry := { contexts := [{}], scopes := [{ slot := .foreign "1" }, {}] }
    let targets : List Target :=
      [.request { method := "GET", url := "/" } 0, .scope 0, .carrier 0, .plain "int" "1"]
    let later : List Use :=
      [.change (.carrier 0) .disableCaching, .change (.plain "int" "1") .startAsync,
        .change (.request { method := "GET", url := "/" } 0) .beginAsyncDispatch]
    r.Sound targets ∧ (∀ u ∈ later, u.target ∈ targets) ∧
      ((r.attach 0).run later).find (.scope 0) = .ok (1, (r.attach 0).run later) ∧
      (r.after (.change (.carrier 0) .disableCaching)).find (.carrier 0) =
        .ok (1, r.after (.change (.carrier 0) .disableCaching)) ∧
      ((r.attach 0).run later).contexts = [{ asyncDispatch := true }, { cachingDisabled := true }] := by
  intro r targets later
  have hsound : r.Sound targets :=
    { has := by
        intro t ht p hp
        simp only [targets, List.mem_cons, List.not_mem_nil, or_false] at ht
        rcases ht with rfl | rfl | rfl | rfl <;> cases hp <;> simp [Has, r]
      kept_lt := by
        intro p i hhas hkept
        rcases p with context | _ | _ | id
        · cases hkept
          exact hhas
        · cases hkept
        · cases hkept
        · exact absurd hhas (by simp [Has, r]) }
  have hlater : ∀ u ∈ later, u.target ∈ targets := by simp [later, targets, Use.target]
  have hfind : (r.run []).find (.carrier 0) = .ok (1, r.attach 0) := rfl
  obtain ⟨hshared, hchanges, -⟩ := attached_for_good hsound [] later (by simp) hlater
  have hagain := (hshared (.carrier 0) (by simp [targets]) (.scope 0) (by simp [targets]) 1 (r.attach 0)
    hfind).1 rfl
  have hchanged := (hchanges (.change (.carrier 0) .disableCaching)
    (by simp [targets, Use.target]) 1 (r.attach 0) hfind).1
  exact ⟨hsound, hlater, hagain, hchanged, rfl⟩

end Registry
end Revalidation
