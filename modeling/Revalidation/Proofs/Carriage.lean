import Revalidation.Proofs.Bearing

/-!
# The carriage of header fields

The fields that an asynchronous application starts its response with are decoded, kept in a collection,
joined by an entity tag and a content length and encoded again.  Before the start nothing of the response
is there; from then on the response bears the fields, and a start that reaches the server has them.
-/

namespace Revalidation.Asgi

open Revalidation.Action Exchange

variable {x : Exchange} {failing : List Nat} {b : Buffer} {fields : List (Bytes × Bytes)}
  {message : Message} {earlier later : List Message} {status : Int} {step : Step} {app : Application}
  {scope : Scope} {filter : EtagFilter}

/-- Of the messages of an application, one starts the response: it has a status and foreign fields, and
comes before any part of the body. -/
structure Application.StartsWith (app : Application) (earlier : List Message) (message : Message)
    (later : List Message) : Prop where
  messages_eq : app.filterMap Step.message? = earlier ++ message :: later
  earlier_silent : ∀ m ∈ earlier, m.type ≠ some Message.startType ∧ m.bodyPart = []
  later_others : ∀ m ∈ later, m.type ≠ some Message.startType
  type_eq : message.type = some Message.startType
  hasStatus : ∃ status, message.status = some status
  foreign : ∀ field ∈ message.headers.getD [], isForeign (lowerField field) = true

/-- Fields that are foreign pass the buffer, be it open or not, and reach the transport. -/
theorem addHeaders_foreign {pairs : List (String × String)} (hb : x.decorators = [.buffer b])
    (hopen : x.transport.committed = false)
    (hpairs : ∀ pair ∈ pairs, Text.lower pair.1 ∉ addedNames) :
    pairs.foldl (fun x (name, value) => x.addHeader [0] name value) x =
      { x with transport := { x.transport with
        headers := pairs.foldl (fun h (name, value) => h.add name value) x.transport.headers } } := by
  induction pairs generalizing x with
  | nil => rfl
  | cons pair rest ih =>
      obtain ⟨name, value⟩ := pair
      rw [List.forall_mem_cons] at hpairs
      have hdecorator : x.decorator 0 = .buffer b := by rw [decorator, hb]; rfl
      have hholds : b.holds x.context name = false := by
        have hne : Text.lower name ≠ "content-length" := fun heq => hpairs.1 (by simp [heq, addedNames])
        simp [Buffer.holds, hne]
      have hadd : x.addHeader [0] name value = { x with transport := { x.transport with
          headers := x.transport.headers.add name value } } := by
        simp [addHeader, hdecorator, hholds, addTransportHeader, changeTransport, hopen]
      rw [List.foldl_cons]
      dsimp only
      rw [hadd]
      exact ih hb hopen hpairs.2

theorem lower_foreign (hforeign : ∀ field ∈ fields, isForeign (lowerField field) = true) :
    ∀ pair ∈ Scope.decodeHeaders fields, Text.lower pair.1 ∉ addedNames := by
  intro pair hpair
  obtain ⟨field, hfield, rfl⟩ := List.mem_map.mp hpair
  have hname := hforeign field hfield
  rw [lower_decodeLatin1]
  exact of_decide_eq_true hname

theorem bearing_accept (hx : x.Unstarted failing) (htype : message.type = some Message.startType)
    (hstatus : message.status = some status)
    (hforeign : ∀ field ∈ message.headers.getD [], isForeign (lowerField field) = true) :
    ∃ y, (accept [0] message).outcome x = (.ok (), y) ∧
      y.Bearing (Headers.ofPairs (Scope.decodeHeaders (message.headers.getD []))) failing := by
  let pairs := Scope.decodeHeaders (message.headers.getD [])
  have hdecorator : x.decorator 0 = .buffer { forRequest := true } := by
    rw [decorator, hx.decorators_eq]
    rfl
  have hopen : x.transport.committed = false := by rw [hx.transport_eq]; rfl
  obtain ⟨recorded, hset⟩ : ∃ recorded, x.setStatus [0] status = { x with
      transport := { Transport.asgi with status := recorded }
      decorators := [.buffer { forRequest := true, status := some status }] } := by
    rcases Bool.eq_false_or_eq_true (Buffer.forwarding { forRequest := true } x.context) with
      hforwarding | hholding
    · refine ⟨status, ?_⟩
      simp [setStatus, hdecorator, hforwarding, setTransportStatus, changeTransport, hx.transport_eq,
        putBuffer, hx.decorators_eq, Transport.asgi]
    · refine ⟨200, ?_⟩
      simp [setStatus, hdecorator, hholding, putBuffer, hx.decorators_eq, hx.transport_eq, Transport.asgi]
  let y : Exchange := { x with
    transport := { Transport.asgi with status := recorded, headers := Headers.ofPairs pairs }
    decorators := [.buffer { forRequest := true, status := some status }] }
  have hy : y.Bearing (Headers.ofPairs pairs) failing :=
    { starts := .inl hx.starts
      uncaught := hx.uncaught
      medium_eq := ⟨false, rfl⟩
      buffer := ⟨_, rfl, fun _ hlength => by cases hlength⟩
      attached := hx.attached
      failing_eq := hx.failing_eq
      latin1 := latin1_decodeHeaders _
      nodup := Headers.names_nodup_ofPairs pairs
      kept := foreign_decodeHeaders hforeign
      of_open := fun _ => hx.starts
      of_committed := fun hcommitted => by cases hcommitted }
  have hfields : pairs.foldl (fun x (name, value) => x.addHeader [0] name value)
      (x.setStatus [0] status) = y := by
    rw [hset]
    exact addHeaders_foreign rfl rfl (lower_foreign hforeign)
  refine ⟨y.log (.applicationStarted (toString status)), ?_, (Bearing.steady _ failing).log _ hy⟩
  simp only [accept, htype, if_true, acceptStart, hstatus, outcome_bind, outcome_modify, outcome_log]
  exact congrArg (fun z => (Except.ok (), Exchange.log z _)) hfields

theorem bearing_runStep (hx : x.Unstarted failing) (hstep : step.message? = some message)
    (htype : message.type = some Message.startType) (hstatus : message.status = some status)
    (hforeign : ∀ field ∈ message.headers.getD [], isForeign (lowerField field) = true) :
    Ends (runStep (.response [0]) step) x
      (fun _ => Bearing (Headers.ofPairs (Scope.decodeHeaders (message.headers.getD []))) failing)
      fun _ _ => False := by
  have hnote (name : String) : (x.note (.step name)).Unstarted failing := Unstarted.steady.note rfl hx
  induction step generalizing x with
  | send sent =>
      obtain rfl := Option.some.inj hstep
      obtain ⟨y, haccept, hy⟩ := bearing_accept (hnote "send") htype hstatus hforeign
      have hrun : (runStep (.response [0]) (.send sent)).outcome x = (.ok (), y) := haccept
      rw [Ends, hrun]
      exact hy
  | attempt step ih =>
      have hinner := ih (hnote "try") hstep fun name => Unstarted.steady.note rfl (hnote "try")
      exact (hinner.tryCatch fun _ _ hfalse => hfalse.elim :
        Ends (attempt (runStep (.response [0]) step)) (x.note (.step "try")) _ _)
  | receive | changeContext _ _ | fail _ _ => cases hstep

theorem bearing_run (happ : app.StartsWith earlier message later) (hx : x.Unstarted failing) :
    let h := Headers.ofPairs (Scope.decodeHeaders (message.headers.getD []))
    Ends (run (.response [0]) app) x (fun _ => Bearing h failing)
      (StopsIn (Faithful h)) := by
  intro h
  obtain ⟨hsent, hearlier, hlater, htype, ⟨status, hstatus⟩, hforeign⟩ := happ
  obtain ⟨before, rest, rfl, rfl, hrest⟩ := List.filterMap_eq_append_iff.mp hsent
  obtain ⟨silent, step, after, rfl, hsilent, hstep, rfl⟩ := List.filterMap_eq_cons_iff.mp hrest
  have hbefore : Carries (Unstarted failing) (run (.response [0]) (before ++ silent)) := by
    refine .forM fun step hmem => Unstarted.steady.carries_runStep fun m hm => ?_
    have hmem : m ∈ before.filterMap Step.message? := by
      obtain hbefore | hnone := List.mem_append.mp hmem
      · exact List.mem_filterMap.mpr ⟨step, hbefore, hm⟩
      · simp [hsilent step hnone] at hm
    obtain ⟨hother, hempty⟩ := hearlier m hmem
    exact Unstarted.steady.carries_accept hother fun hsome => absurd hempty hsome
  have hafter : Carries (Bearing h failing) (run (.response [0]) after) :=
    .forM fun step hmem => (Bearing.steady h failing).carries_runStep fun m hm =>
      (Bearing.steady h failing).carries_accept (hlater m (List.mem_filterMap.mpr ⟨step, hmem, hm⟩))
        fun _ => Bearing.carries_response_write _
  have hsplit : run (.response [0]) (before ++ (silent ++ step :: after)) = (do
      run (.response [0]) (before ++ silent)
      runStep (.response [0]) step
      run (.response [0]) after) := by
    simp only [run, List.forM_eq_forM, ← List.append_assoc, List.forM_append, List.forM_cons]
  rw [hsplit]
  have hstopped : Ends (run (.response [0]) (before ++ silent)) x (fun _ => Unstarted failing)
      (StopsIn (Faithful h)) :=
    (hbefore x hx).mono (fun _ _ hy => hy) fun _ _ hy => ⟨hy.1, hy.2.faithful h⟩
  refine hstopped.bind fun _ y hy => ?_
  refine ((bearing_runStep hy hstep htype hstatus hforeign).mono (fun _ _ hz => hz)
    fun _ _ hfalse => hfalse.elim).bind fun _ z hz => ?_
  exact (hafter z hz).mono (fun _ _ hw => hw) fun _ _ hw => ⟨hw.1, hw.2.toFaithful⟩

theorem bearing_serve (htag : ∀ body, Latin1 (filter.tag body)) (htype : scope.type = some "http")
    (happ : app.StartsWith earlier message later) (depth : Nat) (context : Context) (server : Server) :
    let h := Headers.ofPairs (Scope.decodeHeaders (message.headers.getD []))
    Ends (serve filter scope app (depth + 1) .server) (freshExchange context .absent server)
      (fun _ y => y.Bearing h server.failing ∧ y.transport.committed = true)
      (StopsIn (Faithful h)) := by
  intro h
  have hweaken {α : Type} {action : Action α} {done : α → Exchange → Prop} {y : Exchange}
      (haction : Ends action y done (StopsIn (Bearing h server.failing))) :
      Ends action y done (StopsIn (Faithful h)) :=
    haction.mono (fun _ _ hz => hz) fun _ _ hz => ⟨hz.1, hz.2.toFaithful⟩
  have hcalled : (called context server scope.toRequest).Unstarted server.failing :=
    ⟨rfl, rfl, rfl, rfl, rfl, by simp [Uncaught, called, buffered, entered, Exchange.log, Exchange.note,
      freshExchange]⟩
  have hflush : Carries (Bearing h server.failing) (do
      if (← get).context.cachingDisabled then Response.flush [0]) := by
    refine .read fun x hx => ?_
    split
    · exact Bearing.carries_response_flush x hx
    · exact hx
  have hserve := Unstarted.steady.serve htype (fun x hx => bearing_run happ hx) filter depth hcalled
  exact ends_serve htype (hserve.bind fun _ y hy => hweaken (hflush y hy))
    (fun y hy => hweaken (Bearing.carries_conclude htag y hy)) (fun y hy => hweaken hy.close)
    (fun _ event hy => (Bearing.steady_committed h server.failing).log event hy)
    fun _ _ _ hy => ⟨hy.1, hy.2.note rfl⟩

/-- What the server gets of the fields that an application starts its response with.

Whether the response is buffered, not eligible, not modified, streamed or suspended, no text without an
encoding stops the middleware or reaches the application; of a filter this asks no more than that its tags
have an encoding, as those of digests have (`Latin1.tag`).  The server gets at most one start, and exactly
one if it refuses nothing and the request is served without a fault, as it is for every application that
answers by itself.  But for the fields that the filter adds, the start has those of the application: the
letters of the names in lower case, the values as they were, in groups of one name each. -/
theorem fields_carried (filter : EtagFilter) (htag : ∀ body, Latin1 (filter.tag body)) (scope : Scope)
    (htype : scope.type = some "http") (happ : app.StartsWith earlier message later) (depth : Nat)
    (context : Context) (server : Server) :
    let served := (serve filter scope app (depth + 1) .server).outcome
      (freshExchange context .absent server)
    (∀ cause, served.1 ≠ .error (.encoding cause)) ∧
    (∀ cause, .caught (.encoding cause) ∉ served.2.journal) ∧
    (served.2.startMessages = [] ∨ ∃ status sent, served.2.startMessages = [.start status sent] ∧
      sent.filter isForeign = grouped ((message.headers.getD []).map lowerField)) ∧
    (server.failing = [] → served.1 = .ok () → served.2.startMessages ≠ []) ∧
    (server.failing = [] → (∀ step ∈ app, step.Responds) → served.1 = .ok ()) := by
  intro served
  let h := Headers.ofPairs (Scope.decodeHeaders (message.headers.getD []))
  have hends := bearing_serve htag htype happ depth context server
  have hfaithful : served.2.Faithful h :=
    (hends.mono (fun _ _ hy => hy.1.toFaithful) fun _ _ hy => hy.2).either
  refine ⟨fun cause hcause => ?_, fun cause hmem => ?_, ?_, fun hfailing hok => ?_,
    fun hfailing hresponds => ?_⟩
  · cases (hends.of_error hcause).1
  · cases hfaithful.uncaught _ hmem
  · refine hfaithful.starts.imp_right fun ⟨status, sent, hstart, hsent⟩ => ⟨status, sent, hstart, ?_⟩
    exact Scope.decodeHeaders_injective (hsent.trans (multiItems_decodeHeaders _))
  · obtain ⟨hbearing, hcommitted⟩ := hends.of_ok hok
    exact hbearing.of_committed hcommitted hfailing
  · obtain ⟨y, -, -, hserved, -⟩ := sent_of_recorded filter htag scope htype hresponds ⟨rfl, rfl⟩ .async
      depth context server hfailing
    exact congrArg Prod.fst hserved

/-- Accented letters of a name have a lower-case form, too, and a name keeps its first place. -/
theorem fields_carried_accented :
    let fields : List (Bytes × Bytes) :=
      [([0x58, 0x2D, 0xC4], [0xFF]), ([0x41, 0xD7], [0x41]), ([0x78, 0x2D, 0xE4], [0x80])]
    let app : Application := [.receive, .attempt (.changeContext "disable" .disableCaching),
      .send (.start 200 fields), .send (.part [0x42] false)]
    let served := (serve {} { type := some "http" } app 2 .server).outcome (freshExchange {} .absent {})
    served.1 = .ok () ∧ ∃ status sent, served.2.startMessages = [.start status sent] ∧
      sent.filter isForeign =
        [([0x78, 0x2D, 0xE4], [0xFF]), ([0x78, 0x2D, 0xE4], [0x80]), ([0x61, 0xD7], [0x41])] := by
  intro fields app served
  have happ : app.StartsWith [] (.start 200 fields) [.part [0x42] false] :=
    ⟨rfl, nofun, by decide, rfl, ⟨200, rfl⟩, by decide +kernel⟩
  have hok : served.1 = .ok () := by decide +kernel
  obtain ⟨-, -, hstarts, hstarted, -⟩ := fields_carried {} (fun _ => .tag _) { type := some "http" } rfl
    happ 1 {} {}
  obtain ⟨status, sent, hstart, hsent⟩ := hstarts.resolve_left (hstarted rfl hok)
  exact ⟨hok, status, sent, hstart, hsent.trans (by decide +kernel)⟩

end Revalidation.Asgi
