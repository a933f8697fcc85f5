import QueueBoard.Proofs.Fetch.Classes
import QueueBoard.Proofs.Json.Rewritings
import QueueBoard.Proofs.Listing.Entries

/-! # Edits of a listing

What a server may change about a listing without losing its readers: it may put further members into a
record, order the members in another way, use other blanks and spellings, and write a state that is new.
An edit is told by the bytes before and after it. That the edited bytes are a listing again is proved, and
that of the jobs only the states that were replaced have changed.
-/
namespace QueueBoard.Listing
open Json

/-- A record written as a map, whether or not it has one name and one state. -/
def mapBytes (members : List Member) : Bytes := 0x7B :: commaSeparated (members.map Member.bytes) ++ [0x7D]

/-- A listing with the blanks of a form around elements that are given by their bytes. -/
def Form.bytesAround (f : Form) (elements : List Bytes) : Bytes :=
  f.before.bytes ++ 0x5B :: commaSeparated elements ++ 0x5D :: f.after.bytes

/-- Two ways to write the value of a member. -/
inductive MemberValue.Rewritten : MemberValue → MemberValue → Prop
  | name {w w' : Wording} (h : w'.text = w.text) : Rewritten (.name w) (.name w')
  | state {form form' : StateForm} (h : form'.wire = form.wire) : Rewritten (.state form) (.state form')
  | other {s t : Bytes} (hs : IsValue s) (h : Json.Rewritten s t) :
      Rewritten (.other s hs) (.other t h.isValue)

/-- Two ways to write a member; the blanks in it may differ. -/
structure Member.Rewritten (m m' : Member) : Prop where
  key : m'.key.text = m.key.text
  value : m.value.Rewritten m'.value

/-- Whether a member has a key that nobody asks for. -/
def Member.IsOther (m : Member) : Prop := m.key.text ≠ "name" ∧ m.key.text ≠ "state"

/-- The edits of a record, each with the text of the state it puts in, if it does. -/
inductive RecordForm.Edit : RecordForm → Option String → Bytes → Prop
  | insert {before after : List Member} {name state oneName oneState} (m : Member) (h : m.IsOther) :
      Edit (.map (before ++ after) name state oneName oneState) none (mapBytes (before ++ m :: after))
  | reorder {members members' : List Member} {name state oneName oneState}
      (h : members'.Perm members) :
      Edit (.map members name state oneName oneState) none (mapBytes members')
  | rewriteMap {members members' : List Member} {name state oneName oneState}
      (h : List.Forall₂ Member.Rewritten members members') :
      Edit (.map members name state oneName oneState) none (mapBytes members')
  | rewritePair {beforeName afterName beforeState afterState : Gap} {name : Wording} {form : StateForm}
      (beforeName' afterName' beforeState' afterState' : Gap) (name' : Wording) (form' : StateForm)
      (hname : name'.text = name.text) (hform : form'.wire = form.wire) :
      Edit (.pair beforeName name afterName beforeState form afterState) none
        (RecordForm.pair beforeName' name' afterName' beforeState' form' afterState').bytes
  | replaceInMap {before after : List Member} {m m' : Member} {form form' : StateForm}
      {name state oneName oneState} (hm : m.value = .state form) (hm' : m'.value = .state form') :
      Edit (.map (before ++ m :: after) name state oneName oneState) (some form'.wire)
        (mapBytes (before ++ m' :: after))
  | replaceInPair {beforeName afterName beforeState afterState : Gap} {name : Wording}
      {form : StateForm} (form' : StateForm) :
      Edit (.pair beforeName name afterName beforeState form afterState) (some form'.wire)
        (RecordForm.pair beforeName name afterName beforeState form' afterState).bytes

/-- A state put into the record at a place. -/
structure Change where
  place : Nat
  wire : String

/-- An edit of a document that can be read as a listing. -/
inductive Edit : Bytes → Option Change → Bytes → Prop
  /-- Blanks around and between the records. -/
  | respace (f g : Form) (h : g.elements.map (·.record) = f.elements.map (·.record)) :
      Edit f.bytes none g.bytes
  | record (f : Form) {before after : List Element} {e : Element} {wire : Option String} {bytes : Bytes}
      (hf : f.elements = before ++ e :: after) (h : e.record.Edit wire bytes) :
      Edit f.bytes (wire.map (⟨before.length, ·⟩))
        (f.bytesAround (before.map Element.bytes ++ (e.before.bytes ++ bytes ++ e.after.bytes)
          :: after.map Element.bytes))

/-- Any number of edits, and what they put in. -/
inductive Edits : Bytes → List Change → Bytes → Prop
  | refl (document : Bytes) : Edits document [] document
  | tail {document edited further : Bytes} {changes : List Change} {change : Option Change}
      (h : Edits document changes edited) (he : Edit edited change further) :
      Edits document (changes ++ change.toList) further

/-- The job with another state, if there is one to put in. -/
def withState (wire : Option String) (job : Job) : Job := ⟨job.name, wire.elim job.state .ofWire⟩

/-- The jobs after a change. -/
def revise (jobs : List Job) (change : Change) : List Job :=
  jobs.modify change.place (withState (some change.wire))

/-- The state that the last change of a place puts in, if there is one. -/
def lastWire? (changes : List Change) (place : Nat) : Option String :=
  (changes.filter (·.place = place)).getLast?.map (·.wire)

section Members
variable {m m' : Member}

theorem Member.IsOther.name?_eq_none (h : m.IsOther) : m.name? = none := by
  have hfits := m.fits
  unfold name?
  cases hm : m.value with
  | name w =>
    rw [hm] at hfits
    exact absurd hfits h.1
  | _ => rfl

theorem Member.IsOther.state?_eq_none (h : m.IsOther) : m.state? = none := by
  have hfits := m.fits
  unfold state?
  cases hm : m.value with
  | state form =>
    rw [hm] at hfits
    exact absurd hfits h.2
  | _ => rfl

theorem Member.Rewritten.name?_eq (h : m.Rewritten m') : m'.name? = m.name? := by
  have hvalue := h.value
  unfold name?
  generalize m.value = v, m'.value = v' at hvalue
  cases hvalue with
  | name hw => exact congrArg some hw
  | state => rfl
  | other => rfl

theorem Member.Rewritten.state?_eq (h : m.Rewritten m') : m'.state? = m.state? := by
  have hvalue := h.value
  unfold state?
  generalize m.value = v, m'.value = v' at hvalue
  cases hvalue with
  | name => rfl
  | @state form form' hwire => simp only [StateForm.state_eq, hwire]
  | other => rfl

theorem filterMap_rewritten {α : Type} {f : Member → Option α}
    (hf : ∀ m m', m.Rewritten m' → f m' = f m) {members members' : List Member}
    (h : List.Forall₂ Member.Rewritten members members') : members'.filterMap f = members.filterMap f := by
  induction h with
  | nil => rfl
  | cons hm _ ih => rw [List.filterMap_cons, List.filterMap_cons, hf _ _ hm, ih]

end Members

/-- An edited record is a record, and only its state may have been replaced. -/
theorem RecordForm.Edit.exists_form {r : RecordForm} {wire : Option String} {bytes : Bytes}
    (h : r.Edit wire bytes) : ∃ r' : RecordForm, r'.bytes = bytes ∧ r'.job = withState wire r.job := by
  cases h with
  | @insert before after name state oneName oneState m h =>
    refine ⟨.map (before ++ m :: after) name state ?_ ?_, rfl, rfl⟩
    · simpa [h.name?_eq_none] using oneName
    · simpa [h.state?_eq_none] using oneState
  | @reorder members members' name state oneName oneState h =>
    refine ⟨.map members' name state ?_ ?_, rfl, rfl⟩
    · exact List.perm_singleton.mp (oneName ▸ h.filterMap Member.name?)
    · exact List.perm_singleton.mp (oneState ▸ h.filterMap Member.state?)
  | @rewriteMap members members' name state oneName oneState h =>
    refine ⟨.map members' name state ?_ ?_, rfl, rfl⟩
    · rw [filterMap_rewritten (fun _ _ hm => hm.name?_eq) h, oneName]
    · rw [filterMap_rewritten (fun _ _ hm => hm.state?_eq) h, oneState]
  | rewritePair beforeName' afterName' beforeState' afterState' name' form' hname hform =>
    refine ⟨.pair beforeName' name' afterName' beforeState' form' afterState', rfl, ?_⟩
    simp only [job, withState, Option.elim_none, StateForm.state_eq, hname, hform]
  | @replaceInMap before after m m' form form' name state oneName oneState hm hm' =>
    have hname : m.name? = none ∧ m'.name? = none := by simp [Member.name?, hm, hm']
    have hstate : m.state? = some form.state ∧ m'.state? = some (.ofWire form'.wire) := by
      simp [Member.state?, hm, hm', StateForm.state_eq]
    refine ⟨.map (before ++ m' :: after) name (.ofWire form'.wire) ?_ ?_, rfl, rfl⟩
    · simpa [hname] using oneName
    · simp only [List.filterMap_append, List.filterMap_cons, hstate.1, List.append_eq_singleton_iff,
        List.cons.injEq, reduceCtorEq, and_false, or_false] at oneState
      simp [hstate.2, oneState.1, oneState.2.2]
  | @replaceInPair beforeName afterName beforeState afterState name form form' =>
    refine ⟨.pair beforeName name afterName beforeState form' afterState, rfl, ?_⟩
    simp only [job, withState, Option.elim_some, StateForm.state_eq]

namespace Form
variable (f : Form)

theorem bytes_eq_bytesAround (h : f.elements ≠ []) :
    f.bytes = f.bytesAround (f.elements.map Element.bytes) := by
  unfold bytes bytesAround inner
  split
  · contradiction
  · rfl

end Form

/-- An edited listing is a listing, and only the state of one of its jobs may have been replaced. -/
theorem Edit.decode_eq {document edited : Bytes} {change : Option Change} {jobs : List Job}
    (h : Edit document change edited) (hd : decode document = .ok jobs) :
    decode edited = .ok (change.toList.foldl revise jobs) := by
  rw [decode_eq_ok_iff]
  cases h with
  | respace f g h =>
    have hf : decode f.bytes = .ok f.jobs := decode_eq_ok_iff.mpr ⟨f, rfl, rfl⟩
    obtain rfl : f.jobs = jobs := Except.ok.inj (hf.symm.trans hd)
    refine ⟨g, rfl, ?_⟩
    have hjobs := congrArg (List.map RecordForm.job) h
    simpa [Form.jobs, Function.comp_def] using hjobs
  | @record f before after e wire bytes hf h =>
    have hdecode : decode f.bytes = .ok f.jobs := decode_eq_ok_iff.mpr ⟨f, rfl, rfl⟩
    obtain rfl : f.jobs = jobs := Except.ok.inj (hdecode.symm.trans hd)
    obtain ⟨r, rfl, hjob⟩ := h.exists_form
    refine ⟨{ f with elements := before ++ { e with record := r } :: after }, ?_, ?_⟩
    · rw [Form.bytes_eq_bytesAround _ (by simp)]
      simp [Form.bytesAround, Element.bytes]
    · cases wire with
      | none => simp [Form.jobs, hf, hjob, withState]
      | some w => simp [Form.jobs, hf, hjob, revise, List.modify_eq_take_drop]

theorem Edits.decode_eq {document edited : Bytes} {changes : List Change} {jobs : List Job}
    (h : Edits document changes edited) (hd : decode document = .ok jobs) :
    decode edited = .ok (changes.foldl revise jobs) := by
  induction h with
  | refl => exact hd
  | tail _ he ih =>
    rw [List.foldl_append]
    exact he.decode_eq ih

@[simp] theorem withState_none : withState none = id := rfl

theorem withState_some_comp (wire : String) (earlier : Option String) :
    withState (some wire) ∘ withState earlier = withState (some wire) := rfl

theorem lastWire?_concat (changes : List Change) (change : Change) (place : Nat) :
    lastWire? (changes ++ [change]) place
      = if change.place = place then some change.wire else lastWire? changes place := by
  unfold lastWire?
  by_cases h : change.place = place
  · simp [List.filter_append, h]
  · simp [List.filter_append, h]

/-- A job has the last state that was put into its place. -/
theorem getElem?_revise (changes : List Change) (jobs : List Job) (place : Nat) :
    (changes.foldl revise jobs)[place]? = jobs[place]?.map (withState (lastWire? changes place)) := by
  induction changes using List.reverseRecOn with
  | nil => simp [lastWire?]
  | append_singleton changes change ih =>
    rw [List.foldl_concat, revise, List.getElem?_modify, ih, lastWire?_concat]
    by_cases h : change.place = place
    · simp only [h, if_true, Option.map_eq_map, Option.map_map, withState_some_comp]
    · simp only [h, if_false, Option.map_eq_map, Option.map_id']

theorem ofWire_eq_unknown_iff {wire : String} :
    JobState.ofWire wire = .unknown ↔ wire ∉ ["queue", "process", "done", "failed"] := by
  unfold JobState.ofWire
  split_ifs <;> simp_all

/-- Any number of edits of a listing leave a listing with the same names in the same order. A job has
another state only if one was put into its place, and then it is the last one that was. Every text is
accepted for a state; it is one the board does not know unless it is one of the four. -/
theorem edited_listings_are_read {document edited : Bytes} {changes : List Change} {jobs : List Job}
    (h : Edits document changes edited) (hd : decode document = .ok jobs) :
    ∃ jobs', decode edited = .ok jobs' ∧
      jobs'.map (·.name) = jobs.map (·.name) ∧
      (∀ place, jobs'[place]?.map (·.state)
        = jobs[place]?.map (fun job => (lastWire? changes place).elim job.state JobState.ofWire)) ∧
      (∀ wire, JobState.ofWire wire = .unknown ↔ wire ∉ ["queue", "process", "done", "failed"]) ∧
      ∀ endpoint answer reply, Fetch.reply? endpoint answer = some reply →
        Fetch.IsSuccess reply.status → reply.body = some edited →
        Fetch.jobs endpoint answer = .ok jobs' := by
  have hdecode := h.decode_eq hd
  refine ⟨_, hdecode, ?_, ?_, fun wire => ofWire_eq_unknown_iff, ?_⟩
  · refine List.ext_getElem? fun place => ?_
    simp only [List.getElem?_map, getElem?_revise, Option.map_map]
    rfl
  · intro place
    rw [getElem?_revise, Option.map_map]
    rfl
  · intro endpoint answer reply hreply hs hbody
    rw [Fetch.jobs_of_reply? hreply, Fetch.ofReply_of_complete hs hbody, hdecode]
    rfl

/-- A server puts a member into a record, and then a state that the board does not know. -/
theorem listing_with_new_member_and_state_is_read :
    let document := bytesOf "[\x7b\"name\":\"a\",\"state\":\"done\"\x7d]"
    let edited := bytesOf "[\x7b\"name\":\"a\",\"x\":[0],\"state\":\"new\"\x7d]"
    Edits document [⟨0, "new"⟩] edited ∧ decode edited = .ok [⟨"a", .unknown⟩] := by
  intro document edited
  let wording (cs : List Char) (h : ∀ c ∈ cs, c ≠ '"' ∧ c ≠ '\\' ∧ 0x20 ≤ c.toNat) : Wording :=
    ⟨cs.attach.map fun c => .plain c.1 (h c.1 c.2)⟩
  let member (key : Wording) (value : MemberValue) (h : value.Fits key.text) : Member :=
    ⟨.empty, key, .empty, .empty, value, .empty, h⟩
  let listing (record : RecordForm) : Form := ⟨.empty, .empty, [⟨.empty, record, .empty⟩], .empty⟩
  let name := member (wording "name".toList (by simp)) (.name (wording ['a'] (by simp))) rfl
  let state := wording "state".toList (by simp)
  let done := member state (.state (.bare (wording "done".toList (by simp)))) rfl
  let new := member state (.state (.bare (wording "new".toList (by simp)))) rfl
  let x := member (wording ['x'] (by simp)) (.other (bytesOf "[0]") (.elements (.last .empty .empty
    (.scalar (.number ⟨_, [], [], .zero, .none, .none, rfl⟩))))) (show _ ≠ _ ∧ _ ≠ _ by decide)
  let first : RecordForm := .map ([name] ++ [done]) "a" .done rfl rfl
  let second : RecordForm := .map ([name, x] ++ done :: []) "a" .done rfl rfl
  let third : RecordForm := .map ([name, x] ++ new :: []) "a" .unknown rfl rfl
  have hfirst : (listing first).bytes = document := by decide +kernel
  have hthird : (listing third).bytes = edited := by decide +kernel
  have hinsert : first.Edit none second.bytes := .insert x x.fits
  have hreplace : second.Edit (some "new") third.bytes :=
    .replaceInMap rfl (show new.value = .state _ from rfl)
  have helements (record : RecordForm) :
      (listing record).elements = [] ++ ⟨.empty, record, .empty⟩ :: [] := rfl
  have hedits : Edits (listing first).bytes [⟨0, "new"⟩] (listing third).bytes :=
    .tail (.tail (.refl _) (.record _ (helements first) hinsert)) (.record _ (helements second) hreplace)
  rw [hfirst, hthird] at hedits
  have hdecode : decode document = .ok [⟨"a", .done⟩] := by decide +kernel
  obtain ⟨jobs', hjobs', hnames, hstates, -, -⟩ := edited_listings_are_read hedits hdecode
  obtain ⟨⟨name', state'⟩, rfl, rfl⟩ := List.map_eq_singleton_iff.mp hnames
  have hstate : state' = JobState.ofWire "new" := Option.some.inj (hstates 0)
  rw [hstate] at hjobs'
  exact ⟨hedits, hjobs'⟩

end QueueBoard.Listing
