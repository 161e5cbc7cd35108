import Revalidation.Proofs.Stages

/-!
# Handing over a stream

Whenever a stream asks the application's iterable for an item, the server has got what the stage of the
response says it has.  That is everything produced by then, if the item before came with a chunk.  With
an empty chunk nothing is handed over, and what was held back or written meanwhile stays where it is.
-/

namespace Revalidation

open Revalidation.Action Wsgi

variable {x y z : Exchange} {s t : Stage} {φ : List Entry → Nat → Prop} {entry : Entry}
  {handed waiting : List Bytes} {item : Item} {items : List Item} {iterable : Iterable}
  {app : Application} {pulled n : Nat} {journal : List Entry} {filter : EtagFilter} {request : Request} {context : Context}
  {server : Server}

/-! ## Produced and handed over -/

namespace Wsgi.Stage

/-- What is produced last comes with a chunk, so that the server gets everything once caching is
disabled. -/
theorem handOver_of_take (htake : s.take item = some t) (hchunk : item.chunk ≠ [])
    (hdisabled : t.disabled = true) : t.handOver.handed = t.handOver.produced := by
  obtain ⟨u, -, htake⟩ := Option.bind_eq_some_iff.1 htake
  rw [if_neg (by simpa using hchunk)] at htake
  cases htake
  have hpassed : (u.write item.chunk).passed = true := by
    rw [write] at hdisabled ⊢
    exact Bool.or_eq_true_iff.2 (.inr hdisabled)
  rw [handOver, if_pos hpassed]

theorem disabled_of_step {step : Step} (hdisabled : s.disabled = true) (hstep : s.step step = some t) :
    t.disabled = true := by
  induction step generalizing t with
  | start line headers cause =>
      rw [Stage.step] at hstep
      split at hstep
      · cases hstep
      · unfold begin at hstep
        split at hstep <;> cases hstep
        exact hdisabled
  | write data =>
      rw [Stage.step] at hstep
      split at hstep <;> cases hstep
      exact hdisabled
  | changeContext name change =>
      cases hstep
      exact Bool.or_eq_true_iff.2 (.inl hdisabled)
  | fail kind text => cases hstep
  | attempt inner ih =>
      cases hstep
      cases hinner : s.step inner with
      | none => exact hdisabled
      | some u => exact ih hinner

theorem disabled_of_run {steps : List Step} (hdisabled : s.disabled = true)
    (hrun : s.run steps = some t) : t.disabled = true := by
  induction steps generalizing s with
  | nil =>
      cases hrun
      exact hdisabled
  | cons step rest ih =>
      obtain ⟨u, hstep, hrest⟩ := Option.bind_eq_some_iff.1 hrun
      exact ih (disabled_of_step hdisabled hstep) hrest

theorem disabled_of_take (hdisabled : s.disabled = true) (htake : s.take item = some t) :
    t.disabled = true := by
  obtain ⟨u, hrun, htake⟩ := Option.bind_eq_some_iff.1 htake
  have hu := disabled_of_run hdisabled hrun
  cases htake
  split <;> exact hu

@[simp] theorem handOver_disabled (s : Stage) : s.handOver.disabled = s.disabled := by
  unfold handOver
  split <;> rfl

theorem handed_of_stream (hdisabled : s.disabled = true) (hchunk : item.chunk ≠ [])
    (hstream : s.stream (items ++ [item]) = some t) : t.handed = t.produced := by
  induction items generalizing s with
  | nil =>
      obtain ⟨u, htake, hrest⟩ := Option.bind_eq_some_iff.1 hstream
      rw [if_neg (by simpa using hchunk)] at hrest
      cases hrest
      exact handOver_of_take htake hchunk (disabled_of_take hdisabled htake)
  | cons first rest ih =>
      obtain ⟨u, htake, hrest⟩ := Option.bind_eq_some_iff.1 hstream
      have hu := disabled_of_take hdisabled htake
      refine ih ?_ hrest
      split
      · exact hu
      · rw [handOver_disabled, hu]

/-- The server has got everything when the last item came with a chunk. -/
theorem handed_of_iterate (hchunk : item.chunk ≠ [])
    (hiterate : s.iterate (items ++ [item]) = some t) : t.handed = t.produced := by
  induction items generalizing s with
  | nil =>
      obtain ⟨u, htake, hrest⟩ := Option.bind_eq_some_iff.1 hiterate
      split at hrest
      · next hdisabled =>
        cases hrest
        exact handOver_of_take htake hchunk hdisabled
      · cases hrest
  | cons first rest ih =>
      obtain ⟨u, htake, hrest⟩ := Option.bind_eq_some_iff.1 hiterate
      split at hrest
      · next hdisabled =>
        exact handed_of_stream ((handOver_disabled u).trans hdisabled) hchunk hrest
      · exact ih hrest

end Wsgi.Stage

/-! ## What the journal shows -/

namespace Exchange

/-- Whenever a stream asks for an item, what the journal shows before that has a property. -/
def WhenAsked (φ : List Entry → Nat → Prop) (x : Exchange) : Prop :=
  ∀ before n after, x.journal = before ++ .pulled n :: after → .returned false ∈ before → φ before n

namespace WhenAsked

theorem note (h : x.WhenAsked φ)
    (hentry : ∀ n, entry = .pulled n → .returned false ∈ x.journal → φ x.journal n) :
    (x.note entry).WhenAsked φ := by
  intro before n after hjournal hstream
  rcases List.append_eq_append_iff.1 hjournal with ⟨between, rfl, hlast⟩ | ⟨between, hfirst, hlast⟩
  · cases between with
    | nil =>
        cases hlast
        rw [List.append_nil] at hstream ⊢
        exact hentry n rfl hstream
    | cons first rest => simp at hlast
  · cases between with
    | nil =>
        cases hlast
        rw [List.append_nil] at hfirst
        subst hfirst
        exact hentry n rfl hstream
    | cons first rest =>
        cases hlast
        exact h before n rest hfirst hstream

theorem note_other (h : x.WhenAsked φ) (hentry : ∀ n, entry ≠ .pulled n) :
    (x.note entry).WhenAsked φ := h.note fun n hn => absurd hn (hentry n)

theorem of_unreturned (h : .returned false ∉ x.journal) : x.WhenAsked φ := by
  intro before n after hjournal hstream
  exact absurd (hjournal ▸ List.mem_append_left _ hstream) h

theorem lasting (φ : List Entry → Nat → Prop) : Lasting (WhenAsked φ) := by
  refine .of_journal (fun h hjournal => ?_) fun x entry hentry h => ?_
  · rwa [WhenAsked, hjournal]
  · refine h.note_other fun n => ?_
    rintro rfl
    cases hentry

theorem chunk (x : Exchange) (data : Bytes) (h : x.WhenAsked φ) : (x.note (.chunk data)).WhenAsked φ :=
  h.note_other nofun

end WhenAsked
end Exchange

namespace Wsgi

open Exchange

/-- Before an item is asked for the server has got what the stage says, and more may be withheld. -/
def Application.HandedAt (app : Application) (before : List Entry) (n : Nat) : Prop :=
  ∃ stage withheld, app.stageAt n = some stage ∧
    (before.filterMap Entry.chunk?).flatten = stage.handed ∧ stage.handed ++ withheld = stage.produced

theorem handedAt_of_reached (h : x.Reached s) (hstage : app.stageAt n = some s) :
    app.HandedAt x.journal n := by
  obtain ⟨b, handed, waiting, h⟩ := h
  exact ⟨s, _, hstage, by rw [h.collecting.chunks_eq, h.handed_eq], h.produced_eq⟩

/-! ## The stream -/

theorem outcome_deliver_asking {chunks : List Bytes} {appetite left : Appetite}
    (hok : (deliver chunks appetite).outcome x = (.ok (some left), y)) : y = x.handing chunks := by
  induction chunks generalizing x appetite with
  | nil =>
      cases hok
      simp [handing]
  | cons chunk rest ih =>
      rw [deliver, outcome_bind_ok (outcome_note _ x)] at hok
      split at hok
      · cases hok
      · rw [ih hok]
        simp [handing, Exchange.note]

theorem reached_deliverWaiting {appetite left : Appetite} (h : x.Reached s)
    (hok : (deliverWaiting appetite).outcome x = (.ok (some left), y)) : y.Reached s.handOver := by
  obtain ⟨b, handed, waiting, h⟩ := h
  have hdeliver : (deliver x.takeChunks.1 appetite).outcome x.takeChunks.2 = (.ok (some left), y) := hok
  rw [outcome_deliver_asking hdeliver]
  exact h.handing

theorem whenAsked_note (hasked : x.WhenAsked φ) (hφ : φ x.journal pulled) :
    (x.note (.pulled pulled)).WhenAsked φ := by
  refine hasked.note fun n hn _ => ?_
  cases hn
  exact hφ

theorem whenAsked_pull (hasked : x.WhenAsked φ) (hφ : φ x.journal pulled) (item : Item)
    (starter : Starter) : ((item.pull starter pulled).outcome x).2.WhenAsked φ := by
  rw [Item.pull, outcome_bind_ok (outcome_note _ x)]
  exact Keeps.bind ((WhenAsked.lasting φ).keeps_run starter item.steps) (fun _ => .pure _) _
    (whenAsked_note hasked hφ)

theorem whenAsked_exhaust (hasked : x.WhenAsked φ) (hφ : φ x.journal pulled) (iterable : Iterable)
    (starter : Starter) : ((iterable.exhaust starter pulled).outcome x).2.WhenAsked φ := by
  rw [Iterable.exhaust, outcome_bind_ok (outcome_note _ x)]
  exact (WhenAsked.lasting φ).keeps_run starter iterable.last _ (whenAsked_note hasked hφ)

/-- A stream that goes on at a stage asks for every item at the stage that follows. -/
theorem whenAsked_deliverRest {streaming : Streaming} (hstarter : streaming.starter = .response [0])
    (hresponse : streaming.response = [0]) (h : x.Reached t) (hasked : x.WhenAsked app.HandedAt)
    (hstage : ∀ asked left, items = asked ++ left →
      app.stageAt (pulled + asked.length) = t.stream asked) (appetite : Appetite) :
    ((streaming.deliverRest items pulled appetite).outcome x).2.WhenAsked app.HandedAt := by
  have hlasts := WhenAsked.lasting app.HandedAt
  have hwaiting (appetite : Appetite) : Keeps (WhenAsked app.HandedAt) (deliverWaiting appetite) :=
    hlasts.keeps_deliverWaiting WhenAsked.chunk appetite
  induction items generalizing x t pulled appetite with
  | nil =>
      have hnow : app.HandedAt x.journal pulled := handedAt_of_reached h (hstage [] [] rfl)
      refine Keeps.bind_at (whenAsked_exhaust hasked hnow _ _) fun _ => ?_
      exact .bind (hlasts.keeps_flush _) fun _ => .bind (hwaiting appetite) fun _ => .pure _
  | cons item rest ih =>
      have hnow : app.HandedAt x.journal pulled :=
        handedAt_of_reached h (hstage [] (item :: rest) rfl)
      have hpulled := whenAsked_pull hasked hnow item streaming.starter
      -- The stages that follow this item, whether its chunk is handed over or left out.
      have hnext {u : Stage} (htake : t.take item = some u) (asked left : List Item)
          (hrest : rest = asked ++ left) : app.stageAt (pulled + 1 + asked.length) =
            (if item.chunk.isEmpty then u else u.handOver).stream asked := by
        have hasks := hstage (item :: asked) left (by rw [hrest]; rfl)
        rw [List.length_cons, Stage.stream, htake] at hasks
        rw [Nat.add_assoc, Nat.add_comm 1, hasks]
        rfl
      rw [Streaming.deliverRest]
      rcases hpull : (item.pull streaming.starter pulled).outcome x with
        ⟨fault | chunk, y⟩ <;> rw [hpull] at hpulled
      · rwa [outcome_bind_error hpull]
      obtain rfl := (exists_of_pull hpull).1
      rw [outcome_bind_ok hpull]
      rw [hstarter] at hpull
      cases hempty : item.chunk.isEmpty with
      | true =>
          obtain ⟨u, htake, hu⟩ := reached_take h hpull (by rw [hempty]; rfl)
          have hstages := hnext htake
          rw [hempty] at hstages
          exact ih hu hpulled hstages appetite
      | false =>
          have hwritten := hlasts.keeps_write [0] item.chunk y hpulled
          rw [if_neg Bool.false_ne_true, hresponse]
          rcases hwrite : (Response.write [0] item.chunk).outcome y with ⟨fault | _, z⟩ <;>
            rw [hwrite] at hwritten
          · rwa [outcome_bind_error hwrite]
          obtain ⟨u, htake, hu⟩ := reached_take h hpull (by rw [hempty]; exact hwrite)
          have hstages := hnext htake
          rw [hempty] at hstages
          have hdelivered := hwaiting appetite z hwritten
          rw [outcome_bind_ok hwrite]
          rcases hdeliver : (deliverWaiting appetite).outcome z with ⟨fault | _ | left, w⟩ <;>
            rw [hdeliver] at hdelivered
          · rwa [outcome_bind_error hdeliver]
          · rwa [outcome_bind_ok hdeliver]
          · rw [outcome_bind_ok hdeliver]
            exact ih (reached_deliverWaiting hu hdeliver) hdelivered hstages left

/-- A whole stream asks for every item at the stage that follows, and for none once it is closed. -/
theorem whenAsked_consume {streaming : Streaming} (hstarter : streaming.starter = .response [0])
    (hresponse : streaming.response = [0]) (h : x.Reached t) (hasked : x.WhenAsked app.HandedAt)
    (hstage : ∀ asked left, streaming.rest = asked ++ left →
      app.stageAt (streaming.pulled + asked.length) = t.handOver.stream asked) (appetite : Appetite) :
    ((consume (.stream streaming) appetite).outcome x).2.WhenAsked app.HandedAt := by
  have hlasts := WhenAsked.lasting app.HandedAt
  have hserverClosed : Keeps (WhenAsked app.HandedAt) (Action.note .serverClosed) :=
    .modify fun _ hx => hx.note_other nofun
  have hclose : Keeps (WhenAsked app.HandedAt) (streaming.iterable.close streaming.starter) :=
    hlasts.keeps_close (fun _ hx => hx.note_other nofun) streaming.iterable streaming.starter
  have hreturned : (x.note (.returned false)).WhenAsked app.HandedAt := hasked.note_other nofun
  have hattempt (appetite : Appetite) :
      ((streaming.proceed appetite).outcome (x.note (.returned false))).2.WhenAsked app.HandedAt := by
    rw [Streaming.proceed]
    have hdelivered := hlasts.keeps_deliverWaiting WhenAsked.chunk appetite _ hreturned
    rcases hdeliver : (deliverWaiting appetite).outcome (x.note (.returned false)) with
      ⟨fault | _ | left, y⟩ <;> rw [hdeliver] at hdelivered
    · rwa [outcome_bind_error hdeliver]
    · rwa [outcome_bind_ok hdeliver]
    · rw [outcome_bind_ok hdeliver]
      have hy := reached_deliverWaiting (h.note rfl) hdeliver
      exact whenAsked_deliverRest hstarter hresponse hy hdelivered hstage left
  rw [consume, outcome_bind_ok (outcome_note _ x)]
  split
  · exact hserverClosed _ hreturned
  · next left _ =>
    have hrun : ((streaming.run left).outcome (x.note (.returned false))).2.WhenAsked app.HandedAt := by
      refine Keeps.bind_at (Keeps.onFault_at (hattempt left) fun _ => hclose) fun atEnd => ?_
      split
      · exact .bind hclose fun _ => .pure _
      · exact .pure _
    refine Keeps.bind_at (Keeps.onFault_at hrun fun _ => hserverClosed) fun stillOpen => ?_
    refine .bind hserverClosed fun _ => ?_
    split
    · exact hclose
    · exact .pure ()

/-! ## The exchange -/

section Handle

variable {handler : Starter → Action Iterable}

theorem lasting_unreturned : Lasting fun x : Exchange => Entry.returned false ∉ x.journal := by
  refine .of_journal (fun h hjournal => by rwa [hjournal]) fun x entry hentry h => ?_
  rw [Exchange.note, List.mem_append, List.mem_singleton]
  rintro (hearlier | rfl)
  · exact h hearlier
  · cases hentry

theorem unreturned_note {x : Exchange} (h : Entry.returned false ∉ x.journal)
    (hentry : Entry.returned false ≠ entry) : Entry.returned false ∉ (x.note entry).journal := by
  rw [Exchange.note, List.mem_append, List.mem_singleton]
  exact not_or.2 ⟨h, hentry⟩

theorem unreturned_dispatch
    (hhandler : Keeps (fun x => Entry.returned false ∉ x.journal) (handler (.response [0]))) :
    Entry.returned false ∉ ((filter.dispatch .sync request [] (answer handler)).outcome
      (Asgi.entered (freshExchange context .absent server) request)).2.journal := by
  have hanswer := lasting_unreturned.keeps_answer (fun _ _ h => unreturned_note h nofun)
    (fun _ h => unreturned_note h nofun) hhandler
  rw [EtagFilter.outcome_dispatch (outcome_prepare_entered context server request)]
  refine Keeps.bind hanswer (fun v => .bind (lasting_unreturned.keeps_conclude filter .sync request [0])
    fun _ => .pure v) _ ?_
  simp [called, Exchange.buffered, Asgi.entered, freshExchange, Exchange.log, Exchange.note]

end Handle

theorem reached_called (hrefuses : server.refusesStart = false) :
    (called context server request).Reached {} :=
  ⟨{ forRequest := true }, [], [],
    { decorators_eq := rfl
      forRequest_eq := rfl
      copied_eq := rfl
      empty_of_passed := nofun
      collecting := ⟨rfl, hrefuses, fun _ => ⟨rfl, rfl, rfl⟩, nofun⟩
      committed_eq := rfl
      handed_eq := rfl
      produced_eq := rfl
      disabled_eq := rfl
      attached := rfl
      writer_eq := rfl }⟩

/-- An exchange asks for every item of a stream when the server has got what the stage says. -/
theorem whenAsked_exchange (filter : EtagFilter) (environ : Environ) (depth : Nat)
    (hrefuses : server.refusesStart = false) (appetite : Appetite) :
    ((exchange filter environ app (depth + 1) appetite).outcome
      (freshExchange context .absent server)).2.WhenAsked app.HandedAt := by
  let handler : Starter → Action Iterable := fun starter => call app starter depth
  have hunreturned : Entry.returned false ∉
      ((filter.dispatch .sync environ.toRequest [] (answer handler)).outcome
        (Asgi.entered (freshExchange context .absent server) environ.toRequest)).2.journal :=
    unreturned_dispatch (lasting_unreturned.keeps_call app _ depth)
  have hserve {served : Served} {y : Exchange}
      (hok : (handle filter environ.toRequest handler).outcome (freshExchange context .absent server) =
        (.ok served, y)) :
      (exchange filter environ app (depth + 1) appetite).outcome (freshExchange context .absent server) =
        (consume served appetite).outcome y := outcome_bind_ok hok
  rcases handle_cases lasting_unreturned hunreturned with
    ⟨fault, y, hfault, hkept⟩ | ⟨chunks, y, hbody, hkept⟩ | ⟨streaming, y, event, hdispatch, hstream⟩
  · have hexchange : (exchange filter environ app (depth + 1) appetite).outcome
        (freshExchange context .absent server) = (.error fault, y) := outcome_bind_error hfault
    rw [hexchange]
    exact .of_unreturned hkept
  · rw [hserve hbody, consume, outcome_bind_ok (outcome_note _ y)]
    have hnote : (y.note (.returned true)).WhenAsked app.HandedAt :=
      .of_unreturned (unreturned_note hkept fun hentry => by cases hentry)
    unfold deliverAll
    split
    · exact hnote
    · rw [discard, LawfulFunctor.map_const]
      exact Keeps.map (Lasting.keeps_deliver WhenAsked.chunk chunks _) _ hnote
  · rw [hdispatch] at hunreturned
    obtain ⟨v, z, w, _, hcall, hbegin, hcollect, -, hstarter, hresponse, rfl⟩ :=
      exists_of_dispatch_stream hdispatch
    have hresult := result_of_call hcall
    rw [hresult] at hbegin
    obtain ⟨t, ht, hz⟩ := reached_opening (reached_called hrefuses) (hresult ▸ hcall) hbegin
    obtain ⟨taken, u, hitems, hpulled, hw, hiterate⟩ := reached_collect hz hcollect
    have hasked : WhenAsked app.HandedAt _ := .of_unreturned hunreturned
    rw [hserve hstream]
    refine whenAsked_consume hstarter hresponse ((hw.note rfl).note rfl)
      ((WhenAsked.lasting _).log event hasked) (fun asked left hrest => ?_) appetite
    have htake : app.result.items.take (streaming.pulled + asked.length) = taken ++ asked := by
      rw [← hresult, hitems, hrest, hpulled, Nat.zero_add, ← List.append_assoc,
        ← List.length_append, List.take_left]
    rw [Application.stageAt, ht, htake]
    exact hiterate asked

/-- Whenever a stream asks for an item, the server has got the bytes that the stage of the response has
handed over, which are the first ones of those produced.  If the item before came with a chunk they are
all; with an empty chunk, what was held back or written since then is withheld. -/
theorem handed_when_asked (filter : EtagFilter) (environ : Environ) (app : Application)
    (depth : Nat) (appetite : Appetite) (context : Context) (server : Server)
    (hrefuses : server.refusesStart = false) {before after : List Entry} {n : Nat}
    (hjournal : ((exchange filter environ app (depth + 1) appetite).outcome
      (freshExchange context .absent server)).2.journal = before ++ .pulled n :: after)
    (hstream : .returned false ∈ before) :
    ∃ stage withheld, app.stageAt n = some stage ∧
      (before.filterMap Entry.chunk?).flatten = stage.handed ∧
      stage.handed ++ withheld = stage.produced ∧
      ∀ item, (app.result.items.take n).getLast? = some item → item.chunk ≠ [] → withheld = [] := by
  obtain ⟨stage, withheld, hstage, hhanded, hproduced⟩ :=
    whenAsked_exchange filter environ depth hrefuses appetite before n after hjournal hstream
  refine ⟨stage, withheld, hstage, hhanded, hproduced, fun item hlast hchunk => ?_⟩
  obtain ⟨earlier, hitems⟩ := List.getLast?_eq_some_iff.1 hlast
  obtain ⟨s, -, hiterate⟩ := Option.bind_eq_some_iff.1 hstage
  rw [hitems] at hiterate
  rw [← Stage.handed_of_iterate hchunk hiterate] at hproduced
  simpa using hproduced

/-- A byte is held back, caching is disabled and an empty chunk follows: the stream asks for the next
item before the server has got the byte. -/
theorem handed_when_asked_empty_chunk :
    let app : Application := ⟨[.start "200 OK" [] none], { kind := .iterator, items := [⟨[], [97]⟩,
      ⟨[.changeContext "disable" .disableCaching], []⟩, ⟨[], [98]⟩] }⟩
    let environ : Environ := ⟨[("REQUEST_METHOD", "GET")]⟩
    ∃ before after, ((exchange {} environ app 1 none).outcome
        (freshExchange {} .absent {})).2.journal = before ++ .pulled 2 :: after ∧
      .returned false ∈ before ∧ (before.filterMap Entry.chunk?).flatten = [] ∧
      app.stageAt 2 = some { started := true, disabled := true, produced := [97] } := by
  intro app environ
  have hdepth : exchange {} environ app 1 none = exchange {} environ app (0 + 1) none := rfl
  rw [hdepth]
  generalize hgiven : ((exchange {} environ app (0 + 1) none).outcome
    (freshExchange {} .absent {})).2.journal = journal
  have hjournal : journal = journal.take 10 ++ .pulled 2 :: journal.drop 11 := by
    rw [← hgiven]
    decide +kernel
  have hstream : .returned false ∈ journal.take 10 := by
    rw [← hgiven]
    decide +kernel
  have hat : app.stageAt 2 = some { started := true, disabled := true, produced := [97] } := by rfl
  obtain ⟨stage, _, hstage, hhanded, -, -⟩ :=
    handed_when_asked {} environ app 0 none {} {} rfl (hgiven.trans hjournal) hstream
  obtain rfl := Option.some.inj (hstage.symm.trans hat)
  exact ⟨_, _, hjournal, hstream, hhanded, hat⟩

end Wsgi
end Revalidation
