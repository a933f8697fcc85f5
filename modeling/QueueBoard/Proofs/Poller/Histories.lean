import QueueBoard.Proofs.Poller.Notices

/-! # Histories of pollers

The states of a poller are those of the history of its applied cycles, whichever timers have issued them.
-/
namespace QueueBoard.Poller

/-- A poll state is told by the last success and the last poll of the history that led to it, and so is
what the board shows of it. In every run of a poller, across all its timers, the display is told the
states of the histories of the cycles applied by then, and every answer shows one of them. -/
theorem history_decides_state_and_board :
    (∀ h : History, h.Tells h.state ∧ h.Shows h.state) ∧
      ∀ (clock : Nat) (script : List Scripted) (breaks : List Nat) (steps : List Step),
        let p := new clock script breaks
        .loading :: told (p.events steps) = (history (p.events steps)).inits.map History.state ∧
          ∀ answers a more, p.run steps = answers ++ a :: more →
            a.state =
              if (Control.after (steps.take (answers.length + 1))).dropped then none
              else some (history ((answers ++ [a]).flatMap (·.trace))).state := by
  refine ⟨fun h => ⟨h.tells_state, h.tells_state.shows⟩, ?_⟩
  intro clock script breaks steps p
  constructor
  · have hreports : Reports .loading (p.events steps) (p.afterAll steps).published :=
      reports_events (p := p) rfl steps
    rw [hreports.told_eq, History.scanl_apply]
    rfl
  · intro answers a more hrun
    have hreports := reports_events (p := p) rfl (steps.take (answers.length + 1))
    rw [events_of_run hrun, published_of_run (fun hd => by cases hd) rfl hrun, hreports.state_eq]
    rfl

/-- The jobs of a success are shown after a failure and after a stop. -/
theorem jobs_shown_after_failure_and_stop :
    let job : Job := ⟨"deck", .queued⟩
    let time : Instant := .ofMillis 0
    let failing : History := [.succeeded [job] time, .failed "gone"]
    let p := new 0 [.now (.ok [job])] []
    (∃ view, RenderOptions.default.items failing.state = [.job view]) ∧
      failing.state.statusLine 0 = "Error: gone" ∧
      ∃ started stopped, p.run [⟨.start 20, true⟩, ⟨.stop, true⟩] = [started, stopped] ∧
        stopped.state = some (History.state [.succeeded [job] time]) := by
  intro job time failing p
  obtain ⟨hhistories, hruns⟩ := history_decides_state_and_board
  have hshows := (hhistories failing).2
  obtain ⟨views, hitems, hlists⟩ := hshows.jobs [job] time rfl (by decide) .default
  obtain ⟨view, rfl⟩ : ∃ view, views = [view] := by
    have hlength := congrArg List.length hlists.positions
    simpa [List.length_eq_one_iff] using hlength
  let q := (p.step ⟨.start 20, true⟩).1
  have hstate := (hruns 0 [.now (.ok [job])] [] [⟨.start 20, true⟩, ⟨.stop, true⟩]).2
    [(p.step ⟨.start 20, true⟩).2] (q.step ⟨.stop, true⟩).2 [] rfl
  have htrace : history (([(p.step ⟨.start 20, true⟩).2] ++ [(q.step ⟨.stop, true⟩).2]).flatMap (·.trace))
      = [.succeeded [job] time] := by decide +kernel
  rw [htrace] at hstate
  exact ⟨⟨view, hitems⟩, hshows.error_line "gone" rfl 0, _, _, rfl, hstate⟩

end QueueBoard.Poller
