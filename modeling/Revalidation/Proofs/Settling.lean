import Revalidation.Proofs.Evaluation

/-!
# Evaluating a response again

Every dispatch around a handler evaluates the response, so a nested dispatch evaluates it more than
once.  Once the buffer has been copied a further evaluation finds everything as it would leave it.  A
response that was not modified keeps its buffer uncopied, though, and is evaluated as one with an empty
body; `Revised` says when this comes to another answer.
-/

namespace Revalidation

variable {filter : EtagFilter} {request : Request} {t : Transport} {b : Buffer}

theorem Headers.getList?_withLength (h : Headers) (length? : Option String) {name : String}
    (hne : Text.lower contentLengthName ≠ Text.lower name) :
    (h.withLength length?).getList? name = h.getList? name := by
  cases length? with
  | none => rfl
  | some value => exact getList?_set_ne hne

namespace EtagFilter

theorem accepts_congr {u : Transport} {c : Buffer}
    (hstatus : c.status.getD u.status = b.status.getD t.status)
    (hheaders : u.headers.getList? "Cache-Control" = t.headers.getList? "Cache-Control") :
    filter.accepts request u c = filter.accepts request t b := by
  rw [accepts, accepts, Headers.get?, Headers.get?, hstatus, hheaders]

@[simp] theorem mark_committed : (filter.mark request t b).committed = t.committed := by
  unfold mark
  split <;> rfl

@[simp] theorem mark_medium : (filter.mark request t b).medium = t.medium := by
  unfold mark
  split <;> rfl

@[simp] theorem mark_status : (filter.mark request t b).status = t.status := by
  unfold mark
  split <;> rfl

theorem body_settle_modified (hcopied : b.copied = false) (hrecords : t.Records)
    (hempty : t.writes = []) (h : ¬filter.NotModified request t b) :
    (filter.settle request t b).1.body = b.content := by
  have hmarked : (filter.mark request t b).Records := by rwa [Transport.Records, mark_medium]
  have hwrites : (filter.mark request t b).writes = [] := by rwa [Transport.writes, mark_medium]
  rw [settle_modified h, Transport.body, Transport.takeCopy_writes hcopied hmarked, hwrites]
  by_cases hcontent : b.content = [] <;> simp [hcontent]

theorem settle_committed (hcommitted : t.committed = true) (hcopied : b.copied = true) :
    filter.settle request t b = (t, b) := by
  rw [settle_modified (not_notModified (Or.inl hcommitted)), mark_refused (Or.inl hcommitted),
    Transport.takeCopy_copied hcopied]

/-- Nothing is left to do for a response that gets no tag once the buffer has been copied. -/
theorem settle_refused (hrefused : filter.accepts request t b = false) (hcopied : b.copied = true) :
    filter.settle request t b = (t, b) := by
  rw [settle_modified (not_notModified (Or.inr hrefused)), mark_refused (Or.inr hrefused),
    Transport.takeCopy_copied hcopied]

/-- Nothing is left to do for a response that carries its tag already once the buffer has been
copied. -/
theorem settle_tagged_again (hcopied : b.copied = true)
    (hdiffers : ¬filter.Matches request b.content)
    (htag : t.headers.getList? "ETag" = some [filter.tag b.content]) :
    filter.settle request t b = (t, b) := by
  have hmodified : ¬filter.NotModified request t b := fun h => hdiffers h.2.2
  have hsame : t.setTag (filter.tag b.content) = t := by
    rw [Transport.setTag, Headers.set_of_getList? htag]
  have hmark : filter.mark request t b = t := by
    unfold mark
    split
    · rfl
    · exact hsame
  rw [settle_modified hmodified, hmark, Transport.takeCopy_copied hcopied]

/-- What an evaluation of a response that was not modified leaves counts as not modified again, or
else gets no tag or another one. -/
theorem settle_unmodified_again (h : filter.NotModified request t b)
    (hagain : filter.NotModified request (filter.settle request t b).1 (filter.settle request t b).2) :
    filter.settle request (filter.settle request t b).1 (filter.settle request t b).2 =
      filter.settle request t b := by
  have hmatches : filter.Matches request [] := by
    have h := hagain.2.2
    rwa [settle_unmodified ‹_›] at h
  have htag : filter.tag [] = filter.tag b.content := by
    rw [Matches, h.2.2] at hmatches
    exact (Option.some.inj hmatches).symm
  rw [settle_unmodified hagain, settle_unmodified h]
  simp only [htag, Transport.setUnmodified, Transport.setTag, Buffer.withoutContent, Headers.set_set]

/-- An evaluation of a buffer that the handler has copied already leaves nothing for another one. -/
theorem settle_copied_again (hcopied : b.copied = true) (hempty : b.content = []) :
    filter.settle request (filter.settle request t b).1 (filter.settle request t b).2 =
      filter.settle request t b := by
  by_cases h : filter.NotModified request t b
  · by_cases hagain :
      filter.NotModified request (filter.settle request t b).1 (filter.settle request t b).2
    · exact settle_unmodified_again h hagain
    · have hrefused : filter.accepts request (filter.settle request t b).1
          (filter.settle request t b).2 = false := by
        rw [← Bool.not_eq_true]
        intro haccepts
        refine hagain ⟨?_, haccepts, ?_⟩
        · rw [settle_unmodified h]
          exact h.1
        · rw [settle_unmodified h]
          have hmatches := h.2.2
          rwa [hempty] at hmatches
      have hstill : (filter.settle request t b).2.copied = true := by
        rw [settle_unmodified h]
        exact hcopied
      rw [settle_refused hrefused hstill]
  · have hsettle : filter.settle request t b = (filter.mark request t b, b) := by
      rw [settle_modified h, Transport.takeCopy_copied hcopied]
    rw [hsettle]
    rcases Bool.eq_false_or_eq_true t.committed with hcommitted | hopen
    · rw [mark_refused (Or.inl hcommitted), settle_committed hcommitted hcopied]
    rcases Bool.eq_false_or_eq_true (filter.accepts request t b) with haccepts | hrefused
    · rw [mark_accepted hopen haccepts]
      exact settle_tagged_again hcopied (fun hm => h ⟨hopen, haccepts, hm⟩) Headers.getList?_set_self
    · rw [mark_refused (Or.inr hrefused), settle_refused hrefused hcopied]

/-- An evaluation that copies the buffer leaves nothing for another one. -/
theorem settle_modified_again (hcopied : b.copied = false) (h : ¬filter.NotModified request t b) :
    filter.settle request (filter.settle request t b).1 (filter.settle request t b).2 =
      filter.settle request t b := by
  have hsettle : filter.settle request t b =
      (((filter.mark request t b).takeCopy b).1, b.afterCopy) := by
    rw [settle_modified h]
    simp [Transport.takeCopy, hcopied]
  rw [hsettle]
  by_cases hsent : t.committed = true ∨ b.content ≠ []
  · refine settle_committed ?_ rfl
    rwa [Transport.takeCopy_committed hcopied, mark_committed]
  -- The transport is still open, so the next evaluation asks again whether there is to be a tag.
  obtain ⟨hopen, hempty⟩ := not_or.1 hsent
  rw [Bool.not_eq_true] at hopen
  have hempty : b.content = [] := Decidable.not_not.1 hempty
  have hmark : (filter.mark request t b).committed = false := by rw [mark_committed, hopen]
  have hstatus : b.afterCopy.status.getD ((filter.mark request t b).takeCopy b).1.status =
      b.status.getD t.status := by
    rw [Transport.takeCopy_status hcopied hmark, mark_status]
    simp only [Buffer.afterCopy]
    cases b.status <;> rfl
  have hheaders : ((filter.mark request t b).takeCopy b).1.headers.getList? "Cache-Control" =
      t.headers.getList? "Cache-Control" := by
    rw [Transport.takeCopy_headers hcopied hmark, Headers.getList?_withLength _ _ (by decide),
      getList?_mark (by decide)]
  have haccepts : filter.accepts request ((filter.mark request t b).takeCopy b).1 b.afterCopy =
      filter.accepts request t b := accepts_congr hstatus hheaders
  rcases Bool.eq_false_or_eq_true (filter.accepts request t b) with hgets | hrefused
  · refine settle_tagged_again rfl ?_ ?_
    · intro hm
      exact h ⟨hopen, hgets, hempty ▸ hm⟩
    · rw [Transport.takeCopy_headers hcopied hmark, Headers.getList?_withLength _ _ (by decide),
        mark_accepted hopen hgets, hempty]
      exact Headers.getList?_set_self
  · exact settle_refused (haccepts.trans hrefused) rfl

/-- A third evaluation never changes anything. -/
theorem settle_settle_again (hempty : b.copied = true → b.content = []) :
    let again := filter.settle request (filter.settle request t b).1 (filter.settle request t b).2
    filter.settle request again.1 again.2 = again := by
  intro again
  rcases Bool.eq_false_or_eq_true b.copied with hcopied | hcopied
  · have h : again = filter.settle request t b := settle_copied_again hcopied (hempty hcopied)
    rw [h]
    exact h
  by_cases h : filter.NotModified request t b
  · by_cases hagain :
      filter.NotModified request (filter.settle request t b).1 (filter.settle request t b).2
    · have h : again = filter.settle request t b := settle_unmodified_again h hagain
      rw [h]
      exact h
    · refine settle_modified_again ?_ hagain
      rw [settle_unmodified h]
      exact hcopied
  · have h : again = filter.settle request t b := settle_modified_again hcopied h
    rw [h]
    exact h

theorem settle_drained :
    (filter.settle request t b).2.copied = true ∨ (filter.settle request t b).2.content = [] := by
  unfold settle Transport.takeCopy
  split
  · exact Or.inr rfl
  · split
    · exact Or.inl ‹_›
    · exact Or.inl rfl

theorem records_settle (hrecords : t.Records) : (filter.settle request t b).1.Records := by
  obtain ⟨charset, failing, calls, writes, hmedium⟩ := hrecords
  unfold settle Transport.takeCopy
  split
  · exact ⟨charset, failing, calls, writes, hmedium⟩
  · split
    · exact ⟨charset, failing, calls, writes, by simp [hmedium]⟩
    · split
      · exact ⟨charset, failing, calls, writes, by simp [hmedium]⟩
      · exact ⟨charset, failing, calls + 1, writes ++ [b.content], by
          simp [Transport.accept, hmedium]⟩

def settleTimes (filter : EtagFilter) (request : Request) : Nat → Transport → Buffer →
    Transport × Buffer
  | 0, t, b => (t, b)
  | n + 1, t, b =>
    let (t, b) := settleTimes filter request n t b
    filter.settle request t b

/-- From the second evaluation on nothing changes. -/
theorem settleTimes_add_two (hempty : b.copied = true → b.content = []) (n : Nat) :
    filter.settleTimes request (n + 2) t b = filter.settleTimes request 2 t b := by
  induction n with
  | zero => rfl
  | succ n ih =>
      rw [settleTimes, ih]
      exact settle_settle_again hempty

/-! ## When a second evaluation changes the answer -/

/-- The response was not modified, but the next evaluation revises that: either it tags the response
again, this time for an empty body, or it gives out the length that the buffer still holds. -/
def Revised (filter : EtagFilter) (request : Request) (t : Transport) (b : Buffer) : Prop :=
  filter.NotModified request t b ∧ b.copied = false ∧
    if filter.isEligible request.method (b.status.getD notModifiedStatus)
        (t.headers.get? "Cache-Control") then
      filter.tag [] ≠ filter.tag b.content
    else b.contentLength ≠ none

/-- With the default rule the answer 304 counts as a success again if the handler set the status itself,
and gets no tag if it did not. -/
theorem revised_default :
    ({} : EtagFilter).Revised request t b ↔
      ({} : EtagFilter).NotModified request t b ∧ b.copied = false ∧
        match b.status with
        | some _ => EntityTag.ofBytes [] ≠ EntityTag.ofBytes b.content
        | none => b.contentLength ≠ none := by
  unfold Revised
  refine and_congr_right fun h => and_congr_right fun _ => ?_
  cases hs : b.status with
  | none => simp [isEligible, notModifiedStatus]
  | some status =>
      have haccepts := h.2.1
      rw [accepts, hs, Option.getD_some] at haccepts
      rw [Option.getD_some, if_pos haccepts]
      rfl

theorem accepts_setUnmodified (tag : String) :
    filter.accepts request (t.setUnmodified tag) b.withoutContent =
      filter.isEligible request.method (b.status.getD notModifiedStatus)
        (t.headers.get? "Cache-Control") := by
  have hheaders : (t.setTag tag).headers.getList? "Cache-Control" =
      t.headers.getList? "Cache-Control" := Headers.getList?_set_ne (by decide)
  rw [Headers.get?, ← hheaders]
  rfl

/-- The second evaluation of a response that was not modified has no content to copy. -/
theorem settle_again_of_modified (hcopied : b.copied = false) {u : Transport}
    (hagain : ¬filter.NotModified request u b.withoutContent) :
    (filter.settle request u b.withoutContent).1 =
      (filter.mark request u b.withoutContent).takeHead b.withoutContent true := by
  rw [settle_modified hagain, Transport.takeCopy, if_neg, if_pos]
  · rfl
  · simp [Buffer.withoutContent, hcopied]

theorem settle_of_not_revised (hempty : b.copied = true → b.content = [])
    (h : ¬filter.Revised request t b) :
    (filter.settle request (filter.settle request t b).1 (filter.settle request t b).2).1 =
      (filter.settle request t b).1 := by
  rcases Bool.eq_false_or_eq_true b.copied with hcopied | hcopied
  · rw [settle_copied_again hcopied (hempty hcopied)]
  by_cases hfirst : filter.NotModified request t b
  case neg => rw [settle_modified_again hcopied hfirst]
  by_cases hagain :
    filter.NotModified request (filter.settle request t b).1 (filter.settle request t b).2
  · rw [settle_unmodified_again hfirst hagain]
  rw [settle_unmodified hfirst] at hagain ⊢
  rcases Bool.eq_false_or_eq_true (filter.accepts request
    (t.setUnmodified (filter.tag b.content)) b.withoutContent) with haccepts | hrefused
  · refine absurd ⟨hfirst, hcopied, ?_⟩ h
    rw [accepts_setUnmodified] at haccepts
    rw [if_pos haccepts]
    intro htag
    refine hagain ⟨hfirst.1, by rwa [accepts_setUnmodified], ?_⟩
    show filter.Matches request []
    rw [Matches, htag]
    exact hfirst.2.2
  · have hineligible := hrefused
    rw [accepts_setUnmodified] at hineligible
    have hstatus : b.status = none := by
      cases hs : b.status with
      | none => rfl
      | some status =>
          have haccepts := hfirst.2.1
          rw [accepts, hs, Option.getD_some] at haccepts
          rw [hs, Option.getD_some, haccepts] at hineligible
          cases hineligible
    have hlength : b.contentLength = none := by
      cases hl : b.contentLength with
      | none => rfl
      | some value =>
          refine absurd ⟨hfirst, hcopied, ?_⟩ h
          rw [if_neg (by simp [hineligible]), hl]
          exact Option.some_ne_none value
    rw [settle_again_of_modified hcopied hagain, mark_refused (Or.inr hrefused)]
    simp [Transport.takeHead, Transport.setUnmodified, Buffer.withoutContent, Buffer.passedLength,
      hstatus, hlength, Headers.withLength]

/-- A revised answer has other headers, provided that the transport has no content length as long as
the buffer holds it back. -/
theorem headers_ne_of_revised (h : filter.Revised request t b)
    (hlengthless : t.headers.getList? contentLengthName = none) :
    (filter.settle request (filter.settle request t b).1 (filter.settle request t b).2).1.headers ≠
      (filter.settle request t b).1.headers := by
  obtain ⟨hfirst, hcopied, hcase⟩ := h
  have hpassed : b.withoutContent.passedLength true = b.contentLength := rfl
  rw [settle_unmodified hfirst]
  intro hsame
  split at hcase
  · next heligible =>
    have haccepts := heligible
    rw [← accepts_setUnmodified (filter.tag b.content)] at haccepts
    have hagain : ¬filter.NotModified request (t.setUnmodified (filter.tag b.content))
        b.withoutContent := by
      intro hm
      have hmatches : filter.Matches request [] := hm.2.2
      rw [Matches, hfirst.2.2] at hmatches
      exact hcase (Option.some.inj hmatches).symm
    have hmark := mark_accepted (t := t.setUnmodified (filter.tag b.content)) hfirst.1 haccepts
    rw [settle_again_of_modified hcopied hagain, hmark,
      Transport.takeHead_headers (by exact hfirst.1), hpassed] at hsame
    have htag := congrArg (·.getList? "ETag") hsame
    simp only at htag
    rw [Headers.getList?_withLength _ _ (by decide)] at htag
    have hbody : some [filter.tag []] = some [filter.tag b.content] :=
      Headers.getList?_set_self.symm.trans (htag.trans Headers.getList?_set_self)
    simp only [Option.some.injEq, List.cons.injEq, and_true] at hbody
    exact hcase hbody
  · next hineligible =>
    have hrefused : filter.accepts request (t.setUnmodified (filter.tag b.content))
        b.withoutContent = false := by
      rw [accepts_setUnmodified]
      simpa using hineligible
    have hagain := not_notModified (Or.inr hrefused)
    rw [settle_again_of_modified hcopied hagain, mark_refused (Or.inr hrefused),
      Transport.takeHead_headers (by exact hfirst.1), hpassed] at hsame
    obtain ⟨value, hvalue⟩ := Option.ne_none_iff_exists'.1 hcase
    have hlength := congrArg (·.getList? contentLengthName) hsame
    have htagged : (t.setUnmodified (filter.tag b.content)).headers.getList? contentLengthName = none :=
      (Headers.getList?_set_ne (by decide)).trans hlengthless
    simp only [hvalue, Headers.withLength] at hlength
    rw [Headers.getList?_set_self, htagged] at hlength
    cases hlength

theorem setUnmodified_writes (tag : String) : (t.setUnmodified tag).writes = t.writes := rfl

theorem writes_settle_again (hempty : b.copied = true → b.content = []) :
    (filter.settle request (filter.settle request t b).1 (filter.settle request t b).2).1.writes =
      (filter.settle request t b).1.writes := by
  by_cases h : filter.Revised request t b
  case neg => rw [settle_of_not_revised hempty h]
  obtain ⟨hfirst, hcopied, -⟩ := h
  rw [settle_unmodified hfirst]
  by_cases hagain :
    filter.NotModified request (t.setUnmodified (filter.tag b.content)) b.withoutContent
  · rw [settle_unmodified hagain, setUnmodified_writes]
  · rw [settle_again_of_modified hcopied hagain, Transport.writes, Transport.takeHead_medium,
      mark_medium, Transport.writes]

end EtagFilter
end Revalidation
