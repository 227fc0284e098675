import SecondFactor.Proofs.Flow.Pages
import SecondFactor.Proofs.Terminal.Rounds

/-!
# The pages of a login

The first page is made from the challenges that were triggered, each later one from the submission
before it and from new challenges. The terminal sends back all that a page shows and offers the
input for the device only where the page has it, so no page of a login shows an input that it does
not have, and the input for the device stays once it is there.
-/
namespace SecondFactor

/-- A page of a login whose first page shows a certain image: a passcode can always be entered, and
the page waits for the device only where there is one. -/
structure Presentation.FitsLogin (enrollmentQr : String) (p : Presentation) : Prop where
  otpTokenPresent : p.otpTokenPresent = true
  push : p.tokenType = .push → p.pushTokenPresent = true
  enrollmentQr : p.enrollmentQr = enrollmentQr

theorem Flow.firstPage_fitsLogin (settings : Settings) (batch : List Challenge)
    (enrollmentQr : String) :
    (firstPage settings (.ofChallenges batch) enrollmentQr).FitsLogin enrollmentQr := by
  refine ⟨rfl, fun htype => ?_, rfl⟩
  have hfirst : (Prompts.ofChallenges batch).tokenType = .push := htype
  unfold Prompts.tokenType at hfirst
  split at hfirst
  · next hpresent => exact hpresent
  · cases hfirst

namespace Terminal

open SecondFactor.Flow (Visit Keeps)

variable {o : Options} {first last : Except Fault Flow.Result} {s t : State} {rounds : List Round}

/-- The page after a round keeps the page of the round, and is for the device only where the round's
page could be used for it. -/
theorem Round.keeps {x : Round} {r : Flow.Result} {page : Presentation} (h : x.result o = .ok r)
    (hpage : r.page? = some page) :
    (∃ answers, Keeps x.page answers page) ∧
      (page.tokenType = .push → x.page.tokenType = .push ∨ x.page.pushTokenPresent = true) := by
  obtain ⟨fields, reason, hfields, hecho, -, hvisit⟩ := Round.rejected h hpage
  obtain ⟨hkeeps, htype, -⟩ := Visit.rejected rfl hecho hvisit
  refine ⟨⟨_, hkeeps⟩, fun hpush => ?_⟩
  have hanswers := x.answers o
  rw [hfields] at hanswers
  apply hanswers.tokenType
  rw [hpush] at htype
  unfold TokenType.ofText at htype
  split at htype
  · next hfirst => exact hfirst
  · cases htype

theorem Round.push_stays {x : Round} {r : Flow.Result} {page : Presentation}
    (h : x.result o = .ok r) (hpage : r.page? = some page)
    (present : x.page.pushTokenPresent = true) : page.pushTokenPresent = true := by
  obtain ⟨⟨answers, hkeeps⟩, -⟩ := Round.keeps h hpage
  exact hkeeps.pushTokenPresent.2 (.inl present)

/-- A page that fits a login is followed by one that does. -/
theorem Round.fitsLogin_next {x : Round} {r : Flow.Result} {page : Presentation} {qr : String}
    (fits : x.page.FitsLogin qr) (h : x.result o = .ok r) (hpage : r.page? = some page) :
    page.FitsLogin qr := by
  obtain ⟨⟨answers, hkeeps⟩, htype⟩ := Round.keeps h hpage
  refine ⟨hkeeps.otpTokenPresent.trans fits.otpTokenPresent, fun hpush => ?_,
    hkeeps.enrollmentQr.trans fits.enrollmentQr⟩
  have hpresent : x.page.pushTokenPresent = true := (htype hpush).elim fits.push fun h => h
  exact Round.push_stays h hpage hpresent

/-- The input for the device is there in all rounds once a page has it. -/
theorem Leads.push_stays (h : Leads o first s rounds last t)
    (start : ∀ r page, first = .ok r → r.page? = some page → page.pushTokenPresent = true) :
    ∀ x ∈ rounds, x.page.pushTokenPresent = true := by
  refine h.always (P := fun page _ => page.pushTokenPresent = true) start ?_
  intro x r page before hr hpage
  exact Round.push_stays hr hpage before

/-- No page is followed, at any distance, by one that lacks an input for the device it had. -/
theorem Leads.pairwise_push (h : Leads o first s rounds last t) :
    (rounds.map Round.page).Pairwise fun p q =>
      p.pushTokenPresent = true → q.pushTokenPresent = true := by
  induction h with
  | nil => exact .nil
  | @cons r page s t x rest last shows round later ih =>
    rw [List.map_cons, List.pairwise_cons]
    refine ⟨fun q hq hpresent => ?_, ih⟩
    obtain ⟨y, hy, rfl⟩ := List.mem_map.1 hq
    exact later.push_stays (fun r' page' hr hpage => Round.push_stays hr hpage hpresent) y hy

theorem Leads.fitsLogin (h : Leads o (opening o s).1 (opening o s).2 rounds last t) :
    ∀ x ∈ rounds, ∃ page, (opening o s).1 = .ok (.challenge page) ∧
      x.page.FitsLogin page.enrollmentQr := by
  refine h.always (P := fun page _ =>
    ∃ first, (opening o s).1 = .ok (.challenge first) ∧ page.FitsLogin first.enrollmentQr) ?_ ?_
  · intro r page hr hpage
    obtain ⟨rfl, -⟩ := opening_shows hr hpage
    obtain ⟨batch, enrollmentQr, rfl⟩ := Flow.page_of_begin hr
    exact ⟨_, hr, Flow.firstPage_fitsLogin o.settings batch enrollmentQr⟩
  · intro x r page before hr hpage
    obtain ⟨first, hfirst, hfits⟩ := before
    exact ⟨first, hfirst, Round.fitsLogin_next hfits hr hpage⟩

/-- The pages that a login shows, whatever its settings, the replies and the answers. A passcode can
be entered on every one, none is for the device unless it has that input, all carry the image of the
first page, which is the one that the beginning showed, and an input for the device, once there, is
on all the pages that follow. -/
theorem pages_wellFormed (o : Options) (maxAttempts : Int) (flow : Flow.State)
    (answers : List String) :
    let start := State.fresh flow answers
    let pages := ((login o maxAttempts).runFrom start).2.shown.filterMap Showing.page?
    (∀ p ∈ pages, p.otpTokenPresent = true ∧ (p.tokenType = .push → p.pushTokenPresent = true) ∧
      ∃ first, (opening o start).1 = .ok (.challenge first) ∧ pages.head? = some first ∧
        p.enrollmentQr = first.enrollmentQr) ∧
    pages.Pairwise fun p q => p.pushTokenPresent = true → q.pushTokenPresent = true := by
  intro start pages
  obtain ⟨rounds, last, t, hgoes, hrun⟩ := login_goes o maxAttempts start
  have hleads := hgoes.leads
  have hpages : pages = rounds.map Round.page := by
    obtain ⟨es, hstate⟩ := conclude_state o rounds.length last t
    have hshown : (opening o start).2.shown = [] := rfl
    have hall := hleads.pages
    rw [hshown] at hall
    change ((login o maxAttempts).runFrom start).2.shown.filterMap Showing.page? = _
    rw [hrun, hstate]
    exact hall
  refine ⟨fun p hp => ?_, ?_⟩
  · rw [hpages] at hp ⊢
    obtain ⟨x, hx, rfl⟩ := List.mem_map.1 hp
    obtain ⟨first, hfirst, hfits⟩ := hleads.fitsLogin x hx
    refine ⟨hfits.otpTokenPresent, hfits.push, first, hfirst, ?_, hfits.enrollmentQr⟩
    rw [hfirst] at hleads
    cases hleads with
    | nil => cases hx
    | cons shows round later =>
      cases shows
      rw [round]
      rfl
  · rw [hpages]
    exact hleads.pairwise_push

end Terminal

end SecondFactor
