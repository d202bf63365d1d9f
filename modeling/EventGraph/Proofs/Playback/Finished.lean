import EventGraph.Proofs.Playback.Validated
import EventGraph.Proofs.Playback.Waiting

/-!
# Play-throughs that are over

Nothing is on offer in a play-through that is over, so no pick is accepted any more, and going on
does nothing either: what a player does then leaves everything as it is. Being over is not looked
at by a pick, nor by a move. It is enough that a play-through is set going once.
-/

namespace EventGraph.Story

open Playback

variable {α : Type} {story : Story α} {s s' : State}

/-- A play-through has entries on offer only while it goes on. -/
def OffersWhileRunning (s : State) : Prop := s.finished = true → s.offers = []

theorem OffersWhileRunning.ofRunning (hs : s.finished = false) : OffersWhileRunning s :=
  fun hover => absurd (hs.symm.trans hover) Bool.false_ne_true

/-! ### Moves -/

/-- Wherever a move ends a play-through, it has shown nothing to pick from. -/
theorem Stops.offersWhileRunning {t : Option NodeId} (h : story.Stops s t s')
    (hs : s.finished = false) : OffersWhileRunning s' := by
  cases h with
  | unlinked | missing | terminal | comment => exact fun _ => rfl
  | choice | shown | failed | faulty => exact .ofRunning hs

theorem Moves.offersWhileRunning {bound : Nat} {t : Option NodeId}
    (h : story.Moves bound t s s') (hs : s.finished = false) : OffersWhileRunning s' := by
  cases h with
  | stops hc _ hstop => exact hstop.offersWhileRunning (hc.finished_eq.trans hs)
  | exhausted hc => exact .ofRunning (hc.finished_eq.trans hs)

/-- A move of a play-through that goes on. One that is over could be moved to a choice again. -/
theorem offersWhileRunning_advance (story : Story α) (t : Option NodeId)
    (hs : s.finished = false) : OffersWhileRunning (story.advance t s) := by
  by_cases herrors : s.errors = []
  · exact (moves_advance herrors t).offersWhileRunning hs
  · have hstuck : s.isStuck = true := by simpa [State.isStuck] using herrors
    rw [advance_of_isStuck hstuck]
    exact .ofRunning hs

/-! ### Turns -/

theorem offersWhileRunning_take (t : Turn) (hs : OffersWhileRunning s) :
    OffersWhileRunning (story.take s t) := by
  rcases take_cases story s t with h | ⟨_, e, _, _, hrunning, _, h⟩ | ⟨picked, hpicked, _, h⟩
  · rwa [h]
  · rw [h]
    exact offersWhileRunning_advance story e.next hrunning
  · have hrunning : s.finished = false := by
      rw [Bool.eq_false_iff]
      intro hover
      rw [hs hover] at hpicked
      cases hpicked
    have hprepared : (story.prepare s picked).finished = false :=
      (prepare_finished story s picked).trans hrunning
    rw [h]
    exact offersWhileRunning_advance story picked.next hprepared

/-- Setting a play-through going ends it with nothing on offer, if it ends it. -/
theorem offersWhileRunning_begin (story : Story α) (storage : Storage) {first : Call}
    (hfirst : first.begins false = true) :
    OffersWhileRunning (story.perform (.fresh storage) first) := by
  cases first with
  | start => exact offersWhileRunning_advance story story.graph.startId? rfl
  | advance target => exact offersWhileRunning_advance story target rfl
  | turn t | reset storage => cases hfirst

theorem offersWhileRunning_run (turns : List Turn) (hs : OffersWhileRunning s) :
    OffersWhileRunning (story.run s (turns.map .turn)) := by
  induction turns generalizing s with
  | nil => exact hs
  | cons t rest ih => exact ih (offersWhileRunning_take t hs)

/-! ### When it is over -/

theorem proceed_of_finished (hover : s.finished = true) : story.proceed s = s := by
  simp only [proceed, hover, Bool.true_or, ↓reduceIte]

/-- Why a pick is refused where nothing is on offer. -/
theorem choose_of_offers_eq_nil (hoffers : s.offers = []) (position : Nat) :
    story.choose position s =
      .error (if s.isStuck then .stuck else .outOfRange position) := by
  unfold choose
  rw [hoffers]
  cases s.isStuck <;> rfl

theorem take_of_finished (hs : OffersWhileRunning s) (hover : s.finished = true) (t : Turn) :
    story.take s t = s := by
  cases t with
  | proceed => exact proceed_of_finished hover
  | choose position => simp only [take, choose_of_offers_eq_nil (hs hover) position]

theorem run_of_finished (hs : OffersWhileRunning s) (hover : s.finished = true)
    (turns : List Turn) : story.run s (turns.map .turn) = s := by
  induction turns with
  | nil => rfl
  | cons t rest ih =>
    have ht : story.perform s (.turn t) = s := take_of_finished hs hover t
    simpa only [run, List.map_cons, List.foldl_cons, ht] using ih

/-- **A play-through that was set going once and is over has nothing on offer, and whatever the
player does it stays as it is; a pick is refused.** -/
theorem finished_for_good (story : Story α) (storage : Storage) {first : Call}
    (hfirst : first.begins false = true) (turns : List Turn)
    (hover : (story.run (.fresh storage) (first :: turns.map .turn)).finished = true) :
    let s := story.run (.fresh storage) (first :: turns.map .turn)
    s.offers = [] ∧ story.proceed s = s ∧
    (∀ position, story.choose position s =
      .error (if s.isStuck then .stuck else .outOfRange position)) ∧
    ∀ later : List Turn, story.run s (later.map .turn) = s := by
  intro s
  have hs : OffersWhileRunning s :=
    offersWhileRunning_run turns (offersWhileRunning_begin story storage hfirst)
  exact ⟨hs hover, proceed_of_finished hover, choose_of_offers_eq_nil (hs hover),
    run_of_finished hs hover⟩

/-- Unlocking the gate leads nowhere. What the entry has to say is never shown. -/
theorem finished_for_good_gate :
    let calls : List Call := .advance (some "gate") :: List.map .turn [.choose 0, .choose 1]
    let s := gate.run (.fresh ⟨[("key", .bool true)]⟩) calls
    s.finished = true ∧ s.pendingPrefix = "Click." ∧ s.offers = [] ∧
      gate.choose 0 s = .error (.outOfRange 0) ∧
      gate.run s (List.map .turn [.proceed, .choose 0, .proceed]) = s := by
  intro calls s
  have hover : s.finished = true := by decide +kernel
  have hprefix : s.pendingPrefix = "Click." := by decide +kernel
  have hfree : s.isStuck = false := by decide +kernel
  have hbegins : (Call.advance (some "gate")).begins false = true := rfl
  obtain ⟨hoffers, -, hchoose, hlater⟩ := finished_for_good gate ⟨[("key", .bool true)]⟩ hbegins
    [.choose 0, .choose 1] hover
  refine ⟨hover, hprefix, hoffers, ?_, hlater [.proceed, .choose 0, .proceed]⟩
  have hrefused := hchoose 0
  rw [if_neg (Bool.eq_false_iff.mp hfree)] at hrefused
  exact hrefused

end EventGraph.Story
