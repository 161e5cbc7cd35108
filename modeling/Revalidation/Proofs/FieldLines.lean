import Revalidation.Proofs.Answer
import Revalidation.Proofs.Policies
import Revalidation.Proofs.Reading
import Revalidation.Proofs.Settling

/-!
# Lines of a field

A header that is added more than once is looked up as its values joined by commas.  For Cache-Control
this loses nothing: the joined field forbids to store a response exactly if one of its lines does.
-/

namespace Revalidation

open Element

def Headers.lines (h : Headers) (key : String) : List String := (h.lookup key).getD []

namespace Call

def line? (key : String) : Call → Option String
  | addHeader name value => if Text.lower name = key then some value else none
  | _ => none

def replaces (key : String) : Call → Bool
  | setHeader name _ => Text.lower name = key
  | _ => false

end Call

variable {key : String} {calls : List Call} {call : Call}

/-! ## Lines that calls add -/

theorem lines_passHeader (hkey : key ≠ "content-length") (hkept : call.replaces key = false)
    (h : Headers) : (call.passHeader h).lines key = h.lines key ++ (call.line? key).toList := by
  unfold Headers.lines
  cases call with
  | setHeader name value =>
      have hne : Text.lower name ≠ key := by simpa [Call.replaces] using hkept
      by_cases hlength : Text.lower name = "content-length"
      · simp [Call.passHeader, Call.line?, hlength]
      · rw [Call.passHeader, if_neg hlength, Headers.set, Headers.put,
          Headers.lookup_modifyKey_ne h hne]
        exact (List.append_nil _).symm
  | addHeader name value =>
      by_cases hname : Text.lower name = key
      · subst hname
        rw [Call.passHeader, if_neg hkey, Headers.add, Headers.lookup_modifyKey_self, Call.line?,
          if_pos rfl]
        rfl
      · by_cases hlength : Text.lower name = "content-length"
        · simp [Call.passHeader, Call.line?, hlength, Ne.symm hkey]
        · rw [Call.passHeader, if_neg hlength, Headers.add, Headers.lookup_modifyKey_ne h hname,
            Call.line?, if_neg hname]
          exact (List.append_nil _).symm
  | _ => exact (List.append_nil _).symm

theorem lines_passedHeaders (hkey : key ≠ "content-length")
    (hkept : ∀ call ∈ calls, call.replaces key = false) (h : Headers) :
    (passedHeaders h calls).lines key = h.lines key ++ calls.filterMap (Call.line? key) := by
  induction calls generalizing h with
  | nil => exact (List.append_nil _).symm
  | cons call rest ih =>
      rw [List.forall_mem_cons] at hkept
      have hfirst := lines_passHeader hkey hkept.1 h
      have hrest := ih hkept.2 (call.passHeader h)
      rw [hfirst] at hrest
      cases hline : call.line? key with
      | none => simpa [passedHeaders, hline] using hrest
      | some line => simpa [passedHeaders, hline] using hrest

/-! ## Lines that forbid to store -/

theorem CacheControl.contains_noStore (cc : CacheControl) : cc.contains "no-store" = cc.noStore := by
  have hname : Text.lower "no-store" = "no-store" := by decide
  simp [contains, any_directives, hname, Directive.name, Function.comp_def]

theorem allowsStore_iff (h : Headers) :
    EtagFilter.allowsStore (h.get? "Cache-Control") = true ↔
      ∀ e ∈ readAll (", ".intercalate (h.lines "cache-control")), e.name ≠ "no-store" := by
  have hname : Text.lower "Cache-Control" = "cache-control" := by decide
  unfold Headers.lines
  rw [Headers.get?, Headers.getList?, hname]
  cases h.lookup "cache-control" with
  | none =>
      have hempty : readAll "" = [] := rfl
      simp [EtagFilter.allowsStore, hempty]
  | some lines =>
      simp [EtagFilter.allowsStore, CacheControl.contains_noStore, CacheControl.parse_eq]

theorem allowsStore_lines {lines : List String} {h : Headers} (hlines : h.lines "cache-control" = lines)
    (hcomplete : ∀ line ∈ lines.dropLast, isComplete line = true) :
    EtagFilter.allowsStore (h.get? "Cache-Control") = true ↔
      ∀ line ∈ lines, ∀ e ∈ readAll line, e.name ≠ "no-store" := by
  rw [allowsStore_iff, hlines, readAll_intercalate hcomplete]
  simp only [List.mem_flatMap]
  constructor
  · intro hall line hline e he
    exact hall e ⟨line, hline, he⟩
  · rintro hall e ⟨line, hline, he⟩
    exact hall line hline e he

/-! ## The tag of a response -/

namespace EtagFilter

variable {x : Exchange} {i : Nat} {b : Buffer} {filter : EtagFilter} {request : Request}
  {t : Transport}

theorem getList?_takeHead (complete : Bool) {name : String}
    (hne : Text.lower contentLengthName ≠ Text.lower name) :
    (t.takeHead b complete).headers.getList? name = t.headers.getList? name := by
  unfold Transport.takeHead
  split
  · rfl
  · exact Headers.getList?_withLength _ _ hne

/-- An evaluation sets a tag on a response that is to get one and on no other, whether or not the body
can be written then. -/
theorem getList?_evaluate (filter : EtagFilter) (request : Request)
    (hb : x.decorator i = .buffer b) (hcopied : b.copied = false) (hrecords : x.Records)
    (hopen : x.transport.committed = false) :
    ((filter.evaluate request i []).outcome x).2.transport.headers.getList? "ETag" =
      if filter.accepts request x.transport b then some [filter.tag b.content]
      else x.transport.headers.getList? "ETag" := by
  have hmark : (filter.mark request x.transport b).headers.getList? "ETag" =
      if filter.accepts request x.transport b then some [filter.tag b.content]
      else x.transport.headers.getList? "ETag" := by
    cases haccepts : filter.accepts request x.transport b with
    | true =>
        rw [mark_accepted hopen haccepts]
        exact Headers.getList?_set_self
    | false => rw [mark_refused (.inr haccepts)]; rfl
  -- If neither holds the sink refuses the body, but the tag is set before that.
  by_cases hends : filter.NotModified request x.transport b ∨ x.TakesCopy b
  · obtain ⟨y, hevaluate, hy, -, -⟩ := outcome_evaluate_settle filter request hb hrecords hends
    rw [hevaluate, hy]
    by_cases hsame : filter.NotModified request x.transport b
    · rw [settle_unmodified hsame, if_pos hsame.2.1]
      exact Headers.getList?_set_self
    · have hstill : (filter.mark request x.transport b).committed = false := by
        rw [mark_committed, hopen]
      rw [settle_modified hsame, Transport.takeCopy_headers hcopied hstill,
        Headers.getList?_withLength _ _ (by decide), hmark]
  · obtain ⟨y, hevaluate, hy⟩ := outcome_evaluate_fault hb hrecords hends
    have hrefuse : ∀ u : Transport, u.refuse.headers = u.headers := by
      intro u
      unfold Transport.refuse
      split <;> rfl
    rw [hevaluate, hy, hrefuse, getList?_takeHead true (by decide), hmark]

end EtagFilter

section

open EtagFilter Revalidation.Action

variable {lines : List String} {x : Exchange} {status : Int} {charset : Charset} {failing : List Nat}

/-- What calls compose is given a tag by the dispatch exactly if the filter accepts it. -/
theorem getList?_dispatch_composed (filter : EtagFilter) (style : CallStyle) (request : Request)
    (hsink : x.transport = .recorder status charset failing) (hcontext : x.context = {})
    (hcalls : ∀ call ∈ calls, call.Composes charset) :
    let t := { Transport.recorder status charset failing with headers := passedHeaders {} calls }
    let b := Buffer.compose { forRequest := true } charset calls
    ((Handler.dispatch filter style request [] (calls.map .call)).outcome
        x).2.transport.headers.getList? "ETag" =
      if filter.accepts request t b then some [filter.tag (writtenBytes charset calls)]
      else (passedHeaders {} calls).getList? "ETag" := by
  intro t b
  let i := x.decorators.length
  let y := (x.buffered request).compose i { forRequest := true } charset calls
  obtain ⟨hperform, hb, hyt, hyc⟩ := outcome_performAll_buffered request hsink hcontext hcalls
  have hprepare : (prepare request []).outcome x = (.ok [i], x.buffered request) :=
    outcome_prepare_fresh (by rw [hcontext]) rfl
  have hdispatch : ((Handler.dispatch filter style request [] (calls.map .call)).outcome x).2 =
      ((filter.evaluate request i []).outcome y).2 := by
    rw [Handler.dispatch, outcome_dispatch hprepare, Handler.run_calls, outcome_bind_ok hperform,
      outcome_bind, outcome_conclude_evaluate hb (by rw [hyc]) (by rw [hyc])]
    rcases (filter.evaluate request i []).outcome y with ⟨_ | _, z⟩ <;> rfl
  have hrecords : y.Records := by
    rw [Exchange.Records, hyt]
    exact ⟨charset, failing, 0, [], rfl⟩
  have hopen : y.transport.committed = false := by
    rw [hyt]
    rfl
  have hcontent : b.content = writtenBytes charset calls := List.nil_append _
  rw [hdispatch, getList?_evaluate filter request hb rfl hrecords hopen, hyt, hcontent]

/-- A successful response to a GET request gets a tag exactly if each line of its Cache-Control field
allows to store it. -/
theorem accepts_lines {request : Request} {t : Transport} {b : Buffer}
    (hlines : t.headers.lines "cache-control" = lines)
    (hcomplete : ∀ line ∈ lines.dropLast, isComplete line = true) (hget : request.method = "GET")
    (hlower : 200 ≤ b.status.getD t.status) (hupper : b.status.getD t.status < 300) :
    ({} : EtagFilter).accepts request t b = true ↔
      ∀ line ∈ lines, ∀ e ∈ readAll line, e.name ≠ "no-store" := by
  rw [← allowsStore_lines hlines hcomplete, accepts]
  simp [isEligible, hget, hlower, hupper]

/-- Lines that are read to their ends, all but perhaps the last, give the same elements joined as one by
one.  So a successful response to a GET request is to get a tag exactly if none of the lines that its
handler added forbids to store it, and a dispatch sets the tag then. -/
theorem tagged_iff_lines_allow
    (hcomplete : ∀ line ∈ lines.dropLast, isComplete line = true) :
    readAll (", ".intercalate lines) = lines.flatMap readAll ∧
    ∀ (style : CallStyle) (request : Request) (x : Exchange) (status : Int) (charset : Charset)
      (failing : List Nat) (calls : List Call),
      x.transport = .recorder status charset failing → x.context = {} →
      (∀ call ∈ calls, call.Composes charset) →
      (∀ call ∈ calls, call.replaces "cache-control" = false) →
      calls.filterMap (Call.line? "cache-control") = lines →
      request.method = "GET" → 200 ≤ (lastStatus? calls).getD status →
      (lastStatus? calls).getD status < 300 →
      let i := x.decorators.length
      let allowed := ∀ line ∈ lines, ∀ e ∈ readAll line, e.name ≠ "no-store"
      ∃ y, (Response.performAll [i] calls).outcome (x.buffered request) = (.ok (), y) ∧
        (({} : EtagFilter).isEligible request.method (y.status [i])
          (y.lookup [i] "Cache-Control") = true ↔ allowed) ∧
        let z := ((Handler.dispatch {} style request [] (calls.map .call)).outcome x).2
        (allowed → z.transport.headers.getList? "ETag" =
          some [EntityTag.ofBytes (writtenBytes charset calls)]) ∧
        (¬allowed → z.transport.headers.getList? "ETag" =
          (passedHeaders {} calls).getList? "ETag") := by
  refine ⟨readAll_intercalate hcomplete, ?_⟩
  intro style request x status charset failing calls hsink hcontext hcalls hkept hlines hget hlower
    hupper i allowed
  let b : Buffer := Buffer.compose { forRequest := true } charset calls
  let t := { Transport.recorder status charset failing with headers := passedHeaders {} calls }
  let y := (x.buffered request).compose i { forRequest := true } charset calls
  obtain ⟨hperform, hb, hyt, -⟩ := outcome_performAll_buffered request hsink hcontext hcalls
  have hstatus : b.status.getD t.status = (lastStatus? calls).getD status := by
    show ((lastStatus? calls).or none).getD status = _
    rw [Option.or_none]
  have hadded : t.headers.lines "cache-control" = lines := by
    rw [lines_passedHeaders (by decide) hkept, hlines]
    rfl
  have haccepts : ({} : EtagFilter).accepts request t b = true ↔ allowed :=
    accepts_lines hadded hcomplete hget (by rwa [hstatus]) (by rwa [hstatus])
  refine ⟨y, hperform, ?_, ?_⟩
  · have hlookup : y.lookup [i] "Cache-Control" = t.headers.get? "Cache-Control" :=
      congrArg (·.headers.get? "Cache-Control") hyt
    rw [status_single hb, hlookup, hyt]
    exact haccepts
  · intro z
    have htag := getList?_dispatch_composed {} style request hsink hcontext hcalls
    constructor
    · intro hallowed
      exact htag.trans (if_pos (haccepts.mpr hallowed))
    · intro hforbidden
      exact htag.trans (if_neg (mt haccepts.mp hforbidden))

theorem tagged_iff_lines_allow_quoted :
    let lines := ["private=\"no-store\"", "max-age=", "s-maxage=\"1, no-store"]
    let calls : List Call :=
      [.addHeader "Cache-Control" "private=\"no-store\"", .write [104],
        .addHeader "CACHE-control" "max-age=", .addHeader "cache-control" "s-maxage=\"1, no-store"]
    let x : Exchange := { transport := .recorder 200 .utf8 [1] }
    (∀ line ∈ lines.dropLast, isComplete line = true) ∧ (∀ call ∈ calls, call.Composes .utf8) ∧
      readAll (", ".intercalate lines) = lines.flatMap readAll ∧
      ((Handler.dispatch {} .sync ⟨"GET", "/", {}⟩ [] (calls.map .call)).outcome
        x).2.transport.headers.getList? "ETag" = some [EntityTag.ofBytes [104]] := by
  intro lines calls x
  have hcomplete : ∀ line ∈ lines.dropLast, isComplete line = true := by decide
  have hcalls : ∀ call ∈ calls, call.Composes .utf8 := by
    simp only [calls, List.forall_mem_cons]
    exact ⟨.addHeader _ _, .write _, .addHeader _ _, .addHeader _ _, nofun⟩
  obtain ⟨hjoined, htagged⟩ := tagged_iff_lines_allow hcomplete
  obtain ⟨y, -, -, hset, -⟩ := htagged .sync ⟨"GET", "/", {}⟩ x 200 .utf8 [1] calls rfl rfl hcalls
    (by decide) (by decide) rfl (by decide) (by decide)
  refine ⟨hcomplete, hcalls, hjoined, hset ?_⟩
  decide

end

end Revalidation
