import MailSearch.Console.Run
import MailSearch.Proofs.Session

/-!
# The calls of commands

A command makes calls on a session: it changes the index, searches, or changes the history.
Calls fail or change nothing alike on matching sessions, and leave matching sessions
otherwise; they keep a session storable as long as its figures fit.
-/

namespace MailSearch.Console

namespace Command

/-- The snapshot file on which a command works. -/
def path (s : Settings) (c : Command) : Except Fault Path :=
  match c.snapshot? with
  | some text => .ok (Path.ofText text)
  | none => s.snapshotPath

/-- Whether a command fails without a snapshot. -/
def needsSnapshot : Command → Bool
  | remove _ _ | search _ _ _ _ _ _ _ | suggest _ _ _ | status _ => true
  | _ => false

/-- What a call that can fail makes of a session, if it does not fail. -/
def succeeded {α : Type} (call : Session × Logged α) : Option Session :=
  match call.2.result with
  | .ok _ => some call.1
  | .error _ => none

/-- The session after the library calls of a command, or nothing if the command fails or
changes nothing. The emails of a file are those that `mails` finds there. The command starts
at the time `clock`; its calls that take time are made at the time `now`. -/
def calls (s : Settings) (mails : Path → Except Fault (List Value)) (clock now : Int)
    (session : Session) : Command → Option Session
  | index file _ replace _ =>
      (mails (Path.ofText file)).toOption.map fun mails ↦
        let cleared := if replace then [(now, Index.Change.clear)] else []
        let inserted := mails.map fun mail ↦ (now, Index.Change.insert (.value mail))
        { session with index := session.index.after (cleared ++ inserted) }
  | remove id _ =>
      if session.index.contains id then
        some { session with index := session.index.after [(now, .erase id)] }
      else none
  | search query _ limit fuzzy order _ _ =>
      succeeded (session.execute s now query
        { limit := some limit, fuzzy := some fuzzy, order := order })
  | save name query _ =>
      (session.history.save clock (.text name) (.text query)).toOption.map fun (history, _) ↦
        { session with history }
  | saved _ (some id) =>
      match session.history.delete (.text id) with
      | (history, true) => some { session with history }
      | (_, false) => none
  | serve _ _ | suggest _ _ _ | status _ | saved _ none => none

section Matching

variable {a b : Session}

/-- Calls fail or change nothing alike on matching sessions, or leave matching ones. -/
theorem calls_matches (h : a.Matches b) (s : Settings)
    (mails : Path → Except Fault (List Value)) (clock now : Int) (c : Command) :
    Option.Rel Session.Matches (c.calls s mails clock now a) (c.calls s mails clock now b) := by
  cases c with
  | index file snapshot replace verbose =>
    simp only [calls]
    cases mails (Path.ofText file) with
    | error fault => exact .none
    | ok mails => exact .some (h.after _)
  | remove id snapshot =>
    simp only [calls, h.contains id]
    split
    · exact .some (h.after _)
    · exact .none
  | search query snapshot limit fuzzy order json verbose =>
    obtain ⟨houtcome, hafter⟩ := h.execute s now query
      { limit := some limit, fuzzy := some fuzzy, order := order }
    simp only [calls, succeeded, houtcome]
    split
    · exact .some hafter
    · exact .none
  | save name query snapshot =>
    simp only [calls, h.history]
    cases b.history.save clock (.text name) (.text query) with
    | error fault => exact .none
    | ok result => exact .some (h.withHistory result.1)
  | saved snapshot delete =>
    cases delete with
    | none => exact .none
    | some id =>
      simp only [calls, h.history]
      split
      · exact .some (h.withHistory _)
      · exact .none
  | serve snapshot verbose => exact .none
  | suggest start snapshot limit => exact .none
  | status snapshot => exact .none

end Matching

section Single

variable {session after : Session} {s : Settings} {mails : Path → Except Fault (List Value)}
  {clock now : Int}

/-- Calls leave the settings of an index as they were. -/
theorem sameSettings_calls {c : Command} (hcalls : c.calls s mails clock now session = some after) :
    after.index.SameSettings session.index := by
  cases c with
  | index file snapshot replace verbose =>
    obtain ⟨found, -, rfl⟩ := Option.map_eq_some_iff.mp hcalls
    exact Index.sameSettings_after _ _
  | remove id snapshot =>
    simp only [calls] at hcalls
    split at hcalls
    · cases hcalls
      exact Index.sameSettings_after _ _
    · exact nomatch hcalls
  | search query snapshot limit fuzzy order json verbose =>
    simp only [calls, succeeded] at hcalls
    split at hcalls
    · cases hcalls
      rw [Session.index_execute]
      exact .refl _
    · exact nomatch hcalls
  | save name query snapshot =>
    obtain ⟨result, -, rfl⟩ := Option.map_eq_some_iff.mp hcalls
    exact .refl _
  | saved snapshot delete =>
    cases delete with
    | none => exact nomatch hcalls
    | some id =>
      simp only [calls] at hcalls
      split at hcalls
      · cases hcalls
        exact .refl _
      · exact nomatch hcalls
  | serve snapshot verbose => exact nomatch hcalls
  | suggest start snapshot limit => exact nomatch hcalls
  | status snapshot => exact nomatch hcalls

private theorem partsStorable_inserts (h : session.PartsStorable) {found : List Value}
    (hfound : ∀ mail ∈ found, Json.Readable mail) (hnow : hasTooManyDigits now = false)
    {cleared : List (Int × Index.Change)} (hcleared : ∀ step ∈ cleared, step = (now, .clear)) :
    Session.PartsStorable { session with
      index := session.index.after
        (cleared ++ found.map fun mail ↦ (now, .insert (.value mail))) } := by
  apply h.after
  · intro step hstep
    rcases List.mem_append.mp hstep with hclear | hinsert
    · rw [hcleared step hclear]
      exact hnow
    · obtain ⟨mail, -, rfl⟩ := List.mem_map.mp hinsert
      exact hnow
  · intro step hstep r hbrings
    rcases List.mem_append.mp hstep with hclear | hinsert
    · rw [hcleared step hclear] at hbrings
      exact hbrings.elim
    · obtain ⟨mail, hmail, rfl⟩ := List.mem_map.mp hinsert
      exact Record.storable_of_ofMail (hfound mail hmail) hbrings

/-- Calls with readable emails at times within the limit leave a session storable. -/
theorem partsStorable_calls (h : session.PartsStorable) (hfits : session.fits)
    (hmails : ∀ file found, mails file = .ok found → ∀ mail ∈ found, Json.Readable mail)
    (hnow : hasTooManyDigits now = false) {c : Command}
    (hcalls : c.calls s mails clock now session = some after) : after.PartsStorable := by
  cases c with
  | index file snapshot replace verbose =>
    simp only [calls] at hcalls
    cases hfound : mails (Path.ofText file) with
    | error fault => exact nomatch hfound ▸ hcalls
    | ok found =>
      rw [hfound] at hcalls
      cases hcalls
      refine partsStorable_inserts h (hmails _ found hfound) hnow ?_
      split <;> simp
  | remove id snapshot =>
    simp only [calls] at hcalls
    split at hcalls
    · cases hcalls
      apply h.after
      · intro step hstep
        rw [List.mem_singleton.mp hstep]
        exact hnow
      · intro step hstep r hbrings
        rw [List.mem_singleton.mp hstep] at hbrings
        exact hbrings.elim
    · exact nomatch hcalls
  | search query snapshot limit fuzzy order json verbose =>
    have hafter := h.execute hfits s hnow query
      { limit := some limit, fuzzy := some fuzzy, order := order }
    simp only [calls, succeeded] at hcalls
    split at hcalls
    · cases hcalls
      exact hafter
    · exact nomatch hcalls
  | save name query snapshot =>
    obtain ⟨history, saved, hsave, hhistory⟩ := h.history.save clock name query
    simp only [calls, hsave] at hcalls
    cases hcalls
    exact h.withHistory hhistory
  | saved snapshot delete =>
    cases delete with
    | none => exact nomatch hcalls
    | some id =>
      have hhistory := h.history.delete (.text id)
      simp only [calls] at hcalls
      split at hcalls
      · next history hdelete =>
        cases hcalls
        rw [hdelete] at hhistory
        exact h.withHistory hhistory
      · exact nomatch hcalls
  | serve snapshot verbose => exact nomatch hcalls
  | suggest start snapshot limit => exact nomatch hcalls
  | status snapshot => exact nomatch hcalls

end Single

end Command

end MailSearch.Console
