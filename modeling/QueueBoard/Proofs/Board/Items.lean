import QueueBoard.Board.Item

/-! # Items of a poll state

A poll state with jobs has a view of each of them as its items, in their order, whatever its status is.
Without jobs it has one item, which its status tells.
-/
namespace QueueBoard.RenderOptions

/-- One view for each job, in the order of the jobs. -/
structure Lists (o : RenderOptions) (jobs : List Job) (views : List JobView) : Prop where
  positions : views.map (·.position) = List.range jobs.length
  labels : views.map (·.label) = jobs.map (fun job => Label.truncate o.maxLabelLength job.name)
  states : views.map (·.state) = jobs.map (·.state)
  categories : views.map (·.category) = jobs.map (fun job => Category.ofState job.state)
  styles : views.map (·.style) = jobs.map (fun job => o.style? (.ofState job.state))

def views (o : RenderOptions) (jobs : List Job) : List JobView := jobs.mapIdx o.view

variable (o : RenderOptions) {s : PollState} {jobs : List Job}

/-- What a view has of its job alone is had by the views in the order of the jobs. -/
theorem map_views {β : Type} {g : JobView → β} {f : Job → β} (h : ∀ i job, g (o.view i job) = f job)
    (jobs : List Job) : (o.views jobs).map g = jobs.map f :=
  List.ext_getElem (by simp [views]) fun i _ _ => by simp [views, h]

theorem lists_views (jobs : List Job) : o.Lists jobs (o.views jobs) where
  positions := List.ext_getElem (by simp [views]) fun i _ _ => by simp [views, view]
  labels := o.map_views (fun _ _ => rfl) jobs
  states := o.map_views (fun _ _ => rfl) jobs
  categories := o.map_views (fun _ _ => rfl) jobs
  styles := o.map_views (fun _ _ => rfl) jobs

theorem items_of_no_job (h : s.jobs = some []) : o.items s = [.empty] := by
  rw [items, h, render]

theorem items_of_jobs (h : s.jobs = some jobs) (hne : jobs ≠ []) :
    o.items s = (o.views jobs).map .job := by
  rw [items, h]
  unfold render
  split
  · rename_i hj
    exact absurd (Option.some.inj hj) hne
  · rename_i hj
    cases hj
    exact List.ext_getElem (by simp [views]) fun i _ _ => by simp [views]
  · contradiction
  · contradiction
  · contradiction

theorem items_loading : o.items .loading = [.loading] := rfl

theorem items_of_failure {message : String} (hj : s.jobs = none) (hs : s.status = .failed message) :
    o.items s = [.error message] := by
  rw [items, hj, hs, render]

end QueueBoard.RenderOptions
