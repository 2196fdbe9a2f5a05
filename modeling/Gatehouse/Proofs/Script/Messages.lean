import Gatehouse.Proofs.Script.Steps

/-! # What a script sends

`Script.Sends P` says that the messages of a script have a property, wherever they stand in it. The
receiver then gets messages with the property only, however the script runs (`delivers_exec`). -/

namespace Gatehouse

variable {P : Message → Bool}

/-- All messages of the script are such messages. -/
def Script.Sends (P : Message → Bool) : Script → Prop
  | done => True
  | sleep _ next => next.Sends P
  | send m next => P m = true ∧ next.Sends P
  | fail _ => True
  | mark _ next => next.Sends P
  | within _ body next => body.Sends P ∧ next.Sends P
  | attempt body _ handler cleanup next =>
    body.Sends P ∧ (∀ name, (handler name).Sends P) ∧ cleanup.Sends P ∧ next.Sends P

namespace Run

/-- Whatever has been delivered since then is such a message. -/
def Delivers (P : Message → Bool) (a b : Run) : Prop :=
  ∀ m ∈ b.sent, m ∈ a.sent ∨ P m.message = true

theorem delivers_of_sent {a b : Run} (h : b.sent = a.sent) : Delivers P a b :=
  fun _ hm => .inl (h ▸ hm)

theorem Delivers.trans {a b c : Run} (h : Delivers P a b) (h' : Delivers P b c) :
    Delivers P a c := by
  intro m hm
  rcases h' m hm with hb | hP
  · exact h m hb
  · exact .inr hP

theorem delivers_send (sink : Receiver) {m : Message} (hm : P m = true) :
    Keeps (Delivers P) (send sink m) := by
  intro r
  rcases sent_send sink m r with ⟨-, hsent⟩ | ⟨-, hsent⟩
  · intro m' hm'
    rw [hsent] at hm'
    rcases List.mem_append.1 hm' with hold | hnew
    · exact .inl hold
    · obtain rfl := List.mem_singleton.1 hnew
      exact .inr hm
  · exact delivers_of_sent hsent

theorem delivers_noteAndSend (sink : Receiver) {m : Message} (hm : P m = true) :
    Keeps (Delivers P) (noteAndSend sink m) := by
  intro r
  obtain e | ⟨_, e⟩ := note_cases m r
  · rw [noteAndSend, Work.andThen_of_ok e]
    exact delivers_send sink hm _
  · rw [noteAndSend, Work.andThen_of_error e]
    exact delivers_of_sent rfl

theorem delivers_steps {give : Message → Work} (hg : ∀ m, Keeps (Delivers P) (give m)) :
    Stepwise (Delivers P) give where
  refl _ := delivers_of_sent rfl
  trans h h' := h.trans h'
  suspend seconds r := delivers_of_sent (sent_suspend seconds r)
  give := hg
  mark _ _ := delivers_of_sent rfl
  scope limit _ hw r := hw (r.enter limit)

theorem Keeps.andThen {v w : Work} (hv : Keeps (Delivers P) v) (hw : Keeps (Delivers P) w) :
    Keeps (Delivers P) (Work.andThen v w) := by
  have hsteps : Stepwise (Delivers P) fun _ => Work.succeed :=
    delivers_steps fun _ _ => delivers_of_sent rfl
  exact hsteps.andThen hv hw

/-- A script runs in the same way wherever the other messages go. -/
theorem execWith_congr {give give' : Message → Work} (h : ∀ m, P m = true → give m = give' m)
    {script : Script} (hs : script.Sends P) : execWith give script = execWith give' script := by
  induction script with
  | done => rfl
  | sleep seconds next ih => rw [execWith, execWith, ih hs]
  | send m next ih => rw [execWith, execWith, h m hs.1, ih hs.2]
  | fail f => rfl
  | mark name next ih => rw [execWith, execWith, ih hs]
  | within limit body next ihb ih => rw [execWith, execWith, ihb hs.1, ih hs.2]
  | attempt body caught handler cleanup next ihb ihh ihc ih =>
    obtain ⟨hb, hh, hc, hn⟩ := hs
    rw [execWith, execWith, ihb hb, ihc hc, ih hn, funext fun name => ihh name (hh name)]

/-- A script delivers its own messages only. -/
theorem delivers_exec (sink : Receiver) {script : Script} (h : script.Sends P) :
    Keeps (Delivers P) (exec sink script) := by
  let give (m : Message) : Work := if P m then noteAndSend sink m else Work.succeed
  have hsame : exec sink script = execWith give script :=
    execWith_congr (fun m hm => (if_pos hm).symm) h
  have hgive : ∀ m, Keeps (Delivers P) (give m) := by
    intro m
    by_cases hm : P m = true
    · rw [show give m = _ from if_pos hm]
      exact delivers_noteAndSend sink hm
    · rw [show give m = _ from if_neg hm]
      exact fun _ => delivers_of_sent rfl
  rw [hsame]
  exact (delivers_steps hgive).execWith script

end Run

end Gatehouse
