import Revalidation.Proofs.Answer
import Revalidation.Proofs.FieldValues
import Revalidation.Proofs.Settling
import Revalidation.Wsgi.Environ

/-!
# Conditions of requests

The conditions of a request are the values of its fields of one name, which either gateway writes in
its own way.  The filter compares their joined text with the tag of the body it has, so whether a
client gets a response anew can be told from the fields on the wire.
-/

namespace Revalidation

variable {b : Buffer} {t : Transport} {request : Request}

/-! ## What a request names -/

def conditionName : String := "if-none-match"

/-- The conditions of a request: the values of its fields of that name, in whatever letter case. -/
def Asgi.Scope.conditions (scope : Asgi.Scope) : List String :=
  valuesOf conditionName (lowerNames (decodeHeaders (scope.headers.getD [])))

/-- The conditions of a request: the values of the entries that stand for fields of that name. -/
def Wsgi.Environ.conditions (environ : Wsgi.Environ) : List String :=
  valuesOf conditionName (lowerNames (environ.entries.filterMap fun (name, value) => field? name value))

theorem Asgi.Scope.condition_eq (scope : Asgi.Scope) :
    scope.toRequest.headers.get? "If-None-Match" = joinValues scope.conditions := by
  have hname : Text.lower "If-None-Match" = conditionName := by decide
  rw [toRequest, Headers.get?_ofPairs, hname, conditions]

theorem Wsgi.Environ.condition_eq (environ : Wsgi.Environ) :
    environ.toRequest.headers.get? "If-None-Match" = joinValues environ.conditions := by
  have hname : Text.lower "If-None-Match" = conditionName := by decide
  rw [toRequest, Headers.get?_ofPairs, hname, conditions]

/-! ## What the filter makes of conditions -/

/-- A response that is sent with a status and fields gets a tag: it is a success, and its cache control
does not forbid to store it. -/
def Storable (status : Int) (fields : List (String × String)) : Prop :=
  200 ≤ status ∧ status < 300 ∧
    EtagFilter.allowsStore (joinValues (valuesOf "cache-control" fields)) = true

theorem Headers.Orderly.withLength {h : Headers} (hh : h.Orderly) (length? : Option String) :
    (h.withLength length?).Orderly := by
  cases length? with
  | none => exact hh
  | some value => exact hh.set _ _

namespace EtagFilter

variable {filter : EtagFilter}

theorem orderly_mark (horderly : t.headers.Orderly) : (filter.mark request t b).headers.Orderly := by
  unfold mark
  split
  · exact horderly
  · exact horderly.set _ _

theorem not_matches (hnone : request.headers.get? "If-None-Match" = none) (body : Bytes) :
    ¬({} : EtagFilter).Matches request body := by
  rw [matches_default, hnone]
  exact nofun

/-- Whether a response gets a tag can be told from what is sent. -/
theorem accepts_of_storable (hget : request.method = "GET")
    {status : Int} {headers : Headers} (hsent : headers.Orderly)
    (hstatus : status = b.status.getD t.status)
    (hheaders : headers.getList? "Cache-Control" = t.headers.getList? "Cache-Control")
    (hstorable : Storable status headers.multiItems) :
    ({} : EtagFilter).accepts request t b = true := by
  obtain ⟨hlow, hhigh, hstore⟩ := hstorable
  have hname : Text.lower "Cache-Control" = "cache-control" := by decide
  have hcontrol : t.headers.get? "Cache-Control" =
      joinValues (valuesOf "cache-control" headers.multiItems) := by
    rw [Headers.get?, ← hheaders, ← Headers.get?, Headers.get?_eq_joinValues hsent, hname]
  rw [hstatus] at hlow hhigh
  simp [accepts, isEligible, hget, hlow, hhigh, hcontrol, hstore]

/-- A response without a condition that is sent as one that gets a tag has got it, and the same
response to any other GET request would get it too. -/
theorem settle_of_storable (hcopied : b.copied = false) (hopen : t.committed = false)
    (horderly : t.headers.Orderly) (hget : request.method = "GET")
    (hfirst : request.headers.get? "If-None-Match" = none) :
    let u := (({} : EtagFilter).settle request t b).1
    Storable u.status u.headers.multiItems →
      u = ((t.setTag (EntityTag.ofBytes b.content)).takeCopy b).1 ∧
        ∀ again : Request, again.method = "GET" → ({} : EtagFilter).accepts again t b = true := by
  intro u hstorable
  let m := ({} : EtagFilter).mark request t b
  have hmopen : m.committed = false := by rw [mark_committed, hopen]
  have hnever : ¬({} : EtagFilter).Matches request b.content := not_matches hfirst b.content
  have hu : u = (m.takeCopy b).1 :=
    congrArg Prod.fst (settle_modified fun hnotModified => hnever hnotModified.2.2)
  have hheaders : u.headers = m.headers.withLength (b.passedLength true) := by
    rw [hu, Transport.takeCopy_headers hcopied hmopen]
  have hstatus : u.status = b.status.getD t.status := by
    rw [hu, Transport.takeCopy_status hcopied hmopen, mark_status]
  have hcontrol : u.headers.getList? "Cache-Control" = t.headers.getList? "Cache-Control" := by
    rw [hheaders, Headers.getList?_withLength _ _ (by decide), getList?_mark (by decide)]
  have hsent : u.headers.Orderly := by
    rw [hheaders]
    exact (orderly_mark horderly).withLength _
  have haccepts (again : Request) (hagain : again.method = "GET") :
      ({} : EtagFilter).accepts again t b = true :=
    accepts_of_storable hagain hsent hstatus hcontrol hstorable
  refine ⟨?_, haccepts⟩
  exact congrArg Prod.fst (settle_tagged hopen (haccepts request hget) hnever)

/-- A request with the tag of the first response as its condition gets the same headers without a
content length and no body.  With any other condition it gets the first response again. -/
theorem settle_again (hcopied : b.copied = false) (hopen : t.committed = false)
    (hrecords : t.Records) (hempty : t.writes = []) (horderly : t.headers.Orderly)
    (hmissing : t.headers.getList? contentLengthName = none) (hget : request.method = "GET")
    (hfirst : request.headers.get? "If-None-Match" = none) :
    let u := (({} : EtagFilter).settle request t b).1
    let tag := EntityTag.ofBytes u.body
    Storable u.status u.headers.multiItems →
      valuesOf "etag" u.headers.multiItems = [tag] ∧
        ∀ again : Request, again.method = "GET" →
          (again.headers.get? "If-None-Match" = some tag →
            let v := (({} : EtagFilter).settle again t b).1
            v.status = notModifiedStatus ∧ v.writes = [] ∧
              v.headers.multiItems = u.headers.multiItems.filter (·.1 ≠ "content-length")) ∧
          (again.headers.get? "If-None-Match" ≠ some tag →
            (({} : EtagFilter).settle again t b).1 = u) := by
  intro u tag hstorable
  obtain ⟨hu, haccepts⟩ := settle_of_storable hcopied hopen horderly hget hfirst hstorable
  let m := t.setTag (EntityTag.ofBytes b.content)
  have htag : tag = EntityTag.ofBytes b.content :=
    congrArg EntityTag.ofBytes (body_settle_modified hcopied hrecords hempty
      fun hnotModified => not_matches hfirst b.content hnotModified.2.2)
  have hheaders : u.headers = m.headers.withLength (b.passedLength true) :=
    (congrArg Transport.headers hu).trans (Transport.takeCopy_headers hcopied hopen)
  have hmarked : m.headers.Orderly := horderly.set _ _
  have hlengthless : m.headers.getList? contentLengthName = none :=
    (Headers.getList?_set_ne (by decide)).trans hmissing
  rw [htag]
  refine ⟨?_, fun again hagain => ⟨fun hmatches => ?_, fun hdiffers => ?_⟩⟩
  · have hvalues : u.headers.getList? "ETag" = some [EntityTag.ofBytes b.content] := by
      rw [hheaders, Headers.getList?_withLength _ _ (by decide)]
      exact Headers.getList?_set_self
    have hname : Text.lower "ETag" = "etag" := by decide
    rw [hheaders, Headers.valuesOf_multiItems (hmarked.withLength _), ← hname, ← Headers.getList?,
      ← hheaders, hvalues]
    rfl
  · have hnotModified : ({} : EtagFilter).NotModified again t b :=
      ⟨hopen, haccepts again hagain, hmatches⟩
    have hsettle : ({} : EtagFilter).settle again t b =
        (t.setUnmodified (EntityTag.ofBytes b.content), b.withoutContent) :=
      settle_unmodified hnotModified
    rw [hsettle, hheaders, ← Headers.multiItems_withLength hlengthless]
    exact ⟨rfl, hempty, rfl⟩
  · rw [settle_tagged hopen (haccepts again hagain) hdiffers]
    exact hu.symm

end EtagFilter

end Revalidation
