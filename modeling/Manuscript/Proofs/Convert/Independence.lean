import Manuscript.Convert.Batch
import Manuscript.Proofs.Convert.Uses
import Manuscript.Proofs.Formula.Warmth

/-!
# Texts of a batch

The texts of a batch share one bridge. It may be new or have been used before, and what one
text does to it the next one finds: who starts the engine, or fails to, depends on the order
in which they go on. Over steps whose answers depend on the questions alone none of this
matters: every text comes to what it comes to alone, with a new engine (`alone`).

A batch takes up its texts one after the other and goes on with those that wait in some
order (`convertBatch`). Texts that start the engine at the same time take *turns*: in a turn
a text is taken up, starts the engine, or goes on after it has been started (`Crowd.run`).

* `convertAnnounced_result`: one text, with any engine that is trusted;
* `outcomes_gives`: the texts of a batch, in any order;
* `isSound_run`: what has become of texts that take turns, after any of them;
* `reports_alone`: a batch, in any order and by any turns, comes to what its texts come to
  alone.
-/

namespace Manuscript.Convert

open Manuscript.Formula Manuscript.Log Manuscript.Package Manuscript.Style Manuscript.Work

variable {σ : Type}

/-- The outcome of a text that is converted with a new engine. -/
def alone (c : Converters σ) (config : Config) (s : σ) (text : List Char) : Except Fault Package :=
  (convert c.bridge config text { steps := s }).result

variable {c : Converters σ} {config : Config} {e : Engine σ} {s : σ} {text : List Char}

/-! ## One text -/

theorem convert_result (b : Bridge σ) (s : σ) :
    (convert b config text s).result = (convertAnnounced b config text s).result := by
  rw [convert, bind_ok (w := Work.tell _) rfl]

theorem convert_result_of_not_mem (b : Bridge σ) (htext : '$' ∉ text) (s : σ) :
    (convert b config text s).result = (convertReady b config text s).result := by
  rw [convert_of_not_mem b config htext]

theorem convert_result_of_ready (b : Bridge σ) (htext : '$' ∈ text) {s s' : σ}
    {said : List Notice} (hready : b.ready s = ⟨.ok (), said, s'⟩) :
    (convert b config text s).result = (convertReady b config text s').result := by
  rw [convert_of_ready_ok b config htext hready]

/-- A text without a dollar sign has no use for an engine. -/
theorem convertReady_result_of_not_mem (htext : '$' ∉ text) (e : Engine σ) (s : σ) :
    (convertReady c.bridge config text e).result = alone c config s text := by
  rw [alone, convert_result_of_not_mem c.bridge htext]
  exact (convertReady_follows_of_not_mem (R := fun _ _ => True) htext e _ trivial).1

/-- Conversion leaves an engine ready. -/
theorem convertReady_keeps_isReady :
    Keeps (fun e : Engine σ => e.isReady = true) True (convertReady c.bridge config text)
      fun _ => True :=
  convertReady_keeps c.convert_keeps_isReady

section One

variable (hdet : c.IsDeterministic)

include hdet

/-- With an engine that is ready, a text comes to what it comes to alone. -/
theorem convertReady_result_of_isReady (he : e.IsTrusted c) (hready : e.isReady = true) (s : σ) :
    (convertReady c.bridge config text e).result = alone c config s text := by
  by_cases htext : '$' ∈ text
  · -- The new engine starts, as this one did, and is level with it then.
    cases Converters.ready_of_isTrusted he hready s with
    | of_ok run holds =>
      rw [alone, convert_result_of_ready c.bridge htext run]
      exact (convertReady_follows_of_convert (c.convert_follows_level hdet) _ e holds).1.symm
    | of_error _ fails => exact fails.elim
  · exact convertReady_result_of_not_mem htext e s

/-- If any engine fails to start then so does the new one of a text with a dollar sign. -/
theorem alone_of_start_error (htext : '$' ∈ text) {fault : Formula.Fault}
    (hstart : (c.start e).result = .error fault) (s : σ) :
    alone c config s text = .error (.bridge fault) := by
  have he : e.isReady = false := by
    cases he : e.isReady with
    | false => rfl
    | true =>
      rw [c.start_of_isReady he] at hstart
      cases hstart
  have hnew : ({ steps := s } : Engine σ).isReady = false := rfl
  rw [Converters.start_result_eq hdet he hnew] at hstart
  rcases hrun : c.start { steps := s } with ⟨result, said, e'⟩
  obtain rfl : result = .error fault := by rw [← hstart, hrun]
  have hready : c.ready { steps := s } = ⟨.error fault, said, e'⟩ :=
    (Converters.ready_of_not_isReady rfl).trans hrun
  rw [alone, convert_of_ready_error c.bridge config htext hready]

theorem convertReady_keepsTrust : c.KeepsTrust (convertReady c.bridge config text) :=
  convertReady_keeps (c.convert_keepsTrust hdet)

theorem convertAnnounced_keepsTrust : c.KeepsTrust (convertAnnounced c.bridge config text) := by
  unfold convertAnnounced
  split
  · exact (c.ready_keepsTrust hdet).mapFault _ |>.bind fun _ _ => convertReady_keepsTrust hdet
  · exact convertReady_keepsTrust hdet

/-- A text comes to what it comes to alone, with any engine that is trusted. -/
theorem convertAnnounced_result (he : e.IsTrusted c) (s : σ) :
    (convertAnnounced c.bridge config text e).result = alone c config s text := by
  rw [← convert_result]
  by_cases htext : '$' ∈ text
  -- A text with a dollar sign has the engine made ready. It comes to that fault, or goes on.
  · rcases hrun : c.ready e with ⟨fault | ⟨⟩, said, e'⟩
    · have hstart : (c.start e).result = .error fault := by
        cases hready : e.isReady with
        | true => cases (Converters.ready_of_isReady hready).symm.trans hrun
        | false => rw [← Converters.ready_of_not_isReady hready, hrun]
      rw [convert_of_ready_error c.bridge config htext hrun,
        alone_of_start_error hdet htext hstart s]
    · have he' : e'.IsTrusted c := by
        have := (c.ready_keepsTrust hdet).state he
        rwa [hrun] at this
      rw [convert_result_of_ready c.bridge htext hrun]
      exact convertReady_result_of_isReady hdet he' (Converters.isReady_of_ready hrun) s
  · rw [convert_result_of_not_mem c.bridge htext]
    exact convertReady_result_of_not_mem htext e s

end One

/-! ## In any order -/

/-- What has become of a text is what becomes of it alone, or it still waits. -/
def Slot.IsFor (c : Converters σ) (config : Config) (s : σ) (text : List Char) : Slot → Prop
  | .waiting text' => text' = text
  | .done outcome => outcome = alone c config s text

/-- Activities that engines stay trusted in, and that give something with a property. -/
abbrev GivesFor {α : Type} (c : Converters σ) (w : Work (Engine σ) Fault α) (P : α → Prop) : Prop :=
  Keeps (Engine.IsTrusted c) False w P

section Batch

variable (hdet : c.IsDeterministic) (s : σ)

include hdet

theorem outcomeOf_gives :
    GivesFor c (outcomeOf (convertAnnounced c.bridge config text)) (· = alone c config s text) :=
  fun _ he => .of_ok rfl ⟨(convertAnnounced_keepsTrust hdet).state he,
    convertAnnounced_result hdet he s⟩

theorem takeUp_gives : GivesFor c (takeUp c.bridge config text) (Slot.IsFor c config s text) := by
  refine (Keeps.tell _).bind fun _ _ => fun e he => .read ?_
  split
  · exact .pure ⟨he, rfl⟩
  · exact (outcomeOf_gives hdet s).bind (fun _ ha => .pure ha) e he

theorem goOn_gives {slot : Slot} (h : slot.IsFor c config s text) :
    GivesFor c (goOn c.bridge config slot) (Slot.IsFor c config s text) := by
  cases slot with
  | waiting text' =>
    obtain rfl : text' = text := h
    exact (outcomeOf_gives hdet s).bind fun _ ha => .pure ha
  | done outcome => exact .pure h

theorem outcomeIn_gives {slot : Slot} (h : slot.IsFor c config s text) :
    GivesFor c (outcomeIn c.bridge config slot) (alone c config s text = ·) := by
  cases slot with
  | waiting text' =>
    obtain rfl : text' = text := h
    exact (outcomeOf_gives hdet s).mono fun _ ha => ha.symm
  | done outcome => exact .pure (Eq.symm h)

theorem goOnAt_gives {texts : List (List Char)} {slots : List Slot}
    (h : List.Forall₂ (Slot.IsFor c config s) texts slots) (place : Nat) :
    GivesFor c (goOnAt c.bridge config place slots)
      (List.Forall₂ (Slot.IsFor c config s) texts) := by
  induction h generalizing place with
  | nil =>
    unfold goOnAt
    exact .pure List.Forall₂.nil
  | cons hslot hrest ih =>
    cases place with
    | zero => exact (goOn_gives hdet s hslot).bind fun _ ha => .pure (.cons ha hrest)
    | succ place => exact (ih place).bind fun _ hs => .pure (.cons hslot hs)

theorem goOnInOrder_gives {texts : List (List Char)} {slots : List Slot}
    (h : List.Forall₂ (Slot.IsFor c config s) texts slots) (order : List Nat) :
    GivesFor c (goOnInOrder c.bridge config order slots)
      (List.Forall₂ (Slot.IsFor c config s) texts) := by
  induction order generalizing slots with
  | nil => exact .pure h
  | cons place rest ih => exact (goOnAt_gives hdet s h place).bind fun _ hs => ih hs

/-- The outcomes of a batch before they are reported are those of its texts alone. -/
theorem outcomes_gives (order : List Nat) (texts : List (List Char)) :
    GivesFor c (Work.forEach (takeUp c.bridge config) texts >>= goOnInOrder c.bridge config order
      >>= Work.forEach (outcomeIn c.bridge config)) (texts.map (alone c config s) = ·) := by
  have hup : GivesFor c (Work.forEach (takeUp c.bridge config) texts)
      (List.Forall₂ (Slot.IsFor c config s) texts) := by
    refine Keeps.forEach_forall₂ (A := Eq) (List.forall₂_same.2 fun _ _ => rfl) ?_
    rintro text _ rfl
    exact takeUp_gives hdet s
  -- What each phase hands to the next are slots that are for their texts.
  refine (hup.bind fun slots hslots => goOnInOrder_gives hdet s hslots order).bind
    fun slots hslots => ?_
  refine (Keeps.forEach_forall₂ hslots fun text slot h => outcomeIn_gives hdet s h).mono
    fun outcomes h => ?_
  exact List.forall₂_eq_eq_eq ▸ (List.forall₂_map_left_iff.2 h)

end Batch

/-! ## Turns -/

/-- Where a text stands that shares an engine with others. -/
inductive Standing where
  /-- It has not been taken up. -/
  | fresh
  /-- It has found the engine not ready, and waits. -/
  | waiting
  /-- The engine has been started for it, or not. -/
  | started (result : Except Formula.Fault Unit)
  /-- It has been converted, or not. -/
  | done (outcome : Except Fault Package)

/-- How many turns a text needs at most before it is done. -/
def Standing.rest : Standing → Nat
  | .fresh => 3
  | .waiting => 2
  | .started _ => 1
  | .done _ => 0

/-- What has become of a text that is done. -/
def Standing.outcome? : Standing → Option (Except Fault Package)
  | .done outcome => some outcome
  | .fresh | .waiting | .started _ => none

/-- A text that shares an engine with others. -/
structure Member where
  /-- The text. -/
  text : List Char
  /-- Where it stands. -/
  standing : Standing := .fresh

/-- An engine, and some texts that share it. -/
structure Crowd (σ : Type) where
  /-- The engine. -/
  engine : Engine σ
  /-- The texts. -/
  members : List Member

section

variable (c : Converters σ) (config : Config)

/-- A text is converted. -/
def Member.converted (m : Member) (e : Engine σ) : Standing × Engine σ :=
  let o := convertReady c.bridge config m.text e
  (.done o.result, o.state)

/-- The turn of a text, with the engine that it finds: where it stands after that, and the engine
    that it leaves. An engine is started under a lock, so that texts that have found it not ready
    start it one after the other. -/
def Member.turn (m : Member) (e : Engine σ) : Standing × Engine σ :=
  match m.standing with
  | .fresh => if needsBridge m.text && !e.isReady then (.waiting, e) else m.converted c config e
  | .waiting =>
    let o := c.start e
    (.started o.result, o.state)
  | .started (.ok ()) => m.converted c config e
  | .started (.error fault) => (.done (.error (.bridge fault)), e)
  | .done outcome => (.done outcome, e)

/-- The crowd after the turn of the text at a place. -/
def Crowd.next (crowd : Crowd σ) (place : Nat) : Crowd σ :=
  match crowd.members[place]? with
  | none => crowd
  | some m =>
    let after := m.turn c config crowd.engine
    ⟨after.2, crowd.members.set place { m with standing := after.1 }⟩

/-- The crowd after some turns, each of the text at a place. -/
def Crowd.run (crowd : Crowd σ) (turns : List Nat) : Crowd σ := turns.foldl (next c config) crowd

/-- The outcomes of the texts that are done. -/
def Crowd.outcomes (crowd : Crowd σ) : List (Except Fault Package) :=
  crowd.members.filterMap fun m => m.standing.outcome?

end

/-- A text of a crowd stands where it can stand with its engine: it waits only for a reason, and
    comes to what it comes to alone. -/
def Member.IsSound (c : Converters σ) (config : Config) (s : σ) (e : Engine σ) (m : Member) :
    Prop :=
  match m.standing with
  | .fresh => True
  | .waiting => '$' ∈ m.text
  | .started (.ok ()) => e.isReady = true
  | .started (.error fault) => alone c config s m.text = .error (.bridge fault)
  | .done outcome => outcome = alone c config s m.text

/-- An engine is trusted, and the texts that share it stand where they can. -/
structure Crowd.IsSound (c : Converters σ) (config : Config) (s : σ) (crowd : Crowd σ) : Prop where
  engine : crowd.engine.IsTrusted c
  members : ∀ m ∈ crowd.members, m.IsSound c config s crowd.engine

/-- A text may stand where it stands once the engine is ready, if it was not before. -/
theorem Member.IsSound.mono {e' : Engine σ} {m : Member} (h : m.IsSound c config s e)
    (he : e.isReady = true → e'.isReady = true) : m.IsSound c config s e' := by
  rcases m with ⟨text, _ | _ | ⟨_ | ⟨⟩⟩ | outcome⟩
  · exact h
  · exact h
  · exact h
  · exact he h
  · exact h

/-- What a turn leaves: an engine that is trusted and still ready if it was, and the text where it
    can stand, and with a turn less to go. -/
structure Member.Leaves (c : Converters σ) (config : Config) (s : σ) (m : Member) (e : Engine σ)
    (after : Standing × Engine σ) : Prop where
  engine : after.2.IsTrusted c
  isReady : e.isReady = true → after.2.isReady = true
  member : Member.IsSound c config s after.2 { m with standing := after.1 }
  rest : after.1.rest ≤ m.standing.rest - 1

section Turns

variable (hdet : c.IsDeterministic) (s : σ)

include hdet

theorem converted_leaves {m : Member} (he : e.IsTrusted c)
    (hresult : (convertReady c.bridge config m.text e).result = alone c config s m.text) :
    m.Leaves c config s e (m.converted c config e) := by
  have hafter : m.converted c config e
      = (.done (alone c config s m.text), (convertReady c.bridge config m.text e).state) := by
    rw [← hresult]
    rfl
  rw [hafter]
  exact ⟨(convertReady_keepsTrust hdet).state he, convertReady_keeps_isReady.state, rfl,
    Nat.zero_le _⟩

/-- A text that is taken up is converted at once, or waits. -/
theorem fresh_leaves (he : e.IsTrusted c) :
    Member.Leaves c config s ⟨text, .fresh⟩ e (Member.turn c config ⟨text, .fresh⟩ e) := by
  cases hwaits : needsBridge text && !e.isReady with
  | true =>
    have hturn : Member.turn c config ⟨text, .fresh⟩ e = (.waiting, e) := if_pos hwaits
    rw [hturn]
    exact ⟨he, id, needsBridge_iff.1 (Bool.and_eq_true_iff.1 hwaits).1, Nat.le_refl _⟩
  | false =>
    -- It has no formulas, or finds the engine ready.
    have hturn : Member.turn c config ⟨text, .fresh⟩ e
        = Member.converted c config ⟨text, .fresh⟩ e := if_neg (Bool.eq_false_iff.1 hwaits)
    rw [hturn]
    refine converted_leaves hdet s he ?_
    rcases Bool.and_eq_false_iff.1 hwaits with hneeds | hready
    · exact convertReady_result_of_not_mem (mt needsBridge_iff.2 (Bool.eq_false_iff.1 hneeds)) e s
    · exact convertReady_result_of_isReady hdet he (by simpa using hready) s

/-- Whoever has started the engine meanwhile, it answers alike. -/
theorem waiting_leaves (he : e.IsTrusted c) (htext : '$' ∈ text) :
    Member.Leaves c config s ⟨text, .waiting⟩ e
      (.started (c.start e).result, (c.start e).state) where
  engine := (c.start_keepsTrust hdet).state he
  isReady hready := by
    rw [c.start_of_isReady hready]
    exact hready
  member := by
    rcases hrun : c.start e with ⟨fault | ⟨⟩, said, e'⟩
    · exact alone_of_start_error hdet htext (by rw [hrun]) s
    · exact Converters.isReady_of_start hrun
  rest := Nat.le_refl _

/-- One turn. -/
theorem turn_leaves {m : Member} (he : e.IsTrusted c) (h : m.IsSound c config s e) :
    m.Leaves c config s e (m.turn c config e) := by
  rcases m with ⟨text, _ | _ | ⟨fault | ⟨⟩⟩ | outcome⟩
  · exact fresh_leaves hdet s he
  · exact waiting_leaves hdet s he h
  · exact ⟨he, id, h.symm, Nat.le_refl _⟩
  · exact converted_leaves hdet s he (convertReady_result_of_isReady hdet he h s)
  · exact ⟨he, id, h, Nat.le_refl _⟩

theorem isSound_next {crowd : Crowd σ} (h : crowd.IsSound c config s) (place : Nat) :
    (crowd.next c config place).IsSound c config s := by
  cases hplace : crowd.members[place]? with
  | none =>
    simp only [Crowd.next, hplace]
    exact h
  | some m =>
    have hm := turn_leaves hdet s h.engine (h.members m (List.mem_of_getElem? hplace))
    simp only [Crowd.next, hplace]
    -- The others stand where they stood, with an engine that may be ready by now.
    refine ⟨hm.engine, fun m' hm' => ?_⟩
    rcases List.mem_or_eq_of_mem_set hm' with hold | rfl
    · exact (h.members m' hold).mono hm.isReady
    · exact hm.member

/-- After any turns, what has become of a text is what becomes of it alone. -/
theorem isSound_run {crowd : Crowd σ} (h : crowd.IsSound c config s) (turns : List Nat) :
    (crowd.run c config turns).IsSound c config s := by
  induction turns generalizing crowd with
  | nil => exact h
  | cons place rest ih => exact ih (isSound_next hdet s h place)

/-- How many turns the text at a place needs at most. -/
def Crowd.restAt (crowd : Crowd σ) (place : Nat) : Nat :=
  (crowd.members[place]?).elim 0 fun m => m.standing.rest

theorem restAt_next {crowd : Crowd σ} (h : crowd.IsSound c config s) (turn place : Nat) :
    (crowd.next c config turn).restAt place
      ≤ crowd.restAt place - if turn = place then 1 else 0 := by
  cases hturn : crowd.members[turn]? with
  | none =>
    simp only [Crowd.next, hturn]
    split
    case isTrue hplace => simp only [Crowd.restAt, ← hplace, hturn, Option.elim_none, Nat.zero_le]
    case isFalse => exact Nat.le_refl _
  | some m =>
    have hm := turn_leaves hdet s h.engine (h.members m (List.mem_of_getElem? hturn))
    simp only [Crowd.next, Crowd.restAt, hturn, List.getElem?_set]
    split
    case isTrue hplace =>
      subst hplace
      have hlt := (List.getElem?_eq_some_iff.1 hturn).1
      simpa only [hlt, if_true, hturn, Option.elim_some] using hm.rest
    case isFalse => exact Nat.le_refl _

theorem restAt_run {crowd : Crowd σ} (h : crowd.IsSound c config s) (turns : List Nat)
    (place : Nat) :
    (crowd.run c config turns).restAt place ≤ crowd.restAt place - turns.count place := by
  induction turns generalizing crowd with
  | nil => exact Nat.le_refl _
  | cons turn rest ih =>
    calc ((crowd.next c config turn).run c config rest).restAt place
        ≤ (crowd.next c config turn).restAt place - rest.count place :=
          ih (isSound_next hdet s h turn)
      _ ≤ crowd.restAt place - (if turn = place then 1 else 0) - rest.count place :=
          Nat.sub_le_sub_right (restAt_next hdet s h turn place) _
      _ = crowd.restAt place - (turn :: rest).count place := by
          rw [Nat.sub_sub, List.count_cons, Nat.add_comm]
          simp only [beq_iff_eq]

end Turns

/-- Turns leave the texts as they are. -/
theorem texts_run (crowd : Crowd σ) (turns : List Nat) :
    (crowd.run c config turns).members.map Member.text = crowd.members.map Member.text := by
  induction turns generalizing crowd with
  | nil => rfl
  | cons place rest ih =>
    refine (ih _).trans ?_
    cases hplace : crowd.members[place]? with
    | none => simp only [Crowd.next, hplace]
    | some m =>
      obtain ⟨hlt, rfl⟩ := List.getElem?_eq_some_iff.1 hplace
      have hlt' : place < (crowd.members.map Member.text).length := by rwa [List.length_map]
      have htext : crowd.members[place].text = (crowd.members.map Member.text)[place] :=
        (List.getElem_map _).symm
      simp only [Crowd.next, hplace, List.map_set]
      rw [htext, List.set_getElem_self hlt']

/-- Texts that are all done have come to what they come to alone. -/
theorem Crowd.IsSound.outcomes_eq {crowd : Crowd σ} (h : crowd.IsSound c config s)
    (hdone : ∀ place, crowd.restAt place = 0) :
    crowd.outcomes = (crowd.members.map Member.text).map (alone c config s) := by
  have hmember : ∀ m ∈ crowd.members,
      m.standing.outcome? = some (alone c config s m.text) := by
    intro m hm
    obtain ⟨place, hplace⟩ := List.mem_iff_getElem?.1 hm
    have hrest := hdone place
    rw [Crowd.restAt, hplace, Option.elim_some] at hrest
    have hsound := h.members m hm
    rcases m with ⟨text, _ | _ | result | outcome⟩
    · cases hrest
    · cases hrest
    · cases hrest
    · exact congrArg some hsound
  rw [Crowd.outcomes, List.filterMap_congr hmember, List.map_map]
  exact congrFun List.filterMap_eq_map _

/-! ## Reports -/

/-- A text has a package, or a fault that the program knows of. -/
def IsSettled (outcome : Except Fault Package) : Prop :=
  ∀ fault, outcome = .error fault → fault.isKnown = true

instance (outcome : Except Fault Package) : Decidable (IsSettled outcome) :=
  match outcome with
  | .ok _ => .isTrue fun _ h => nomatch h
  | .error fault =>
    decidable_of_iff (fault.isKnown = true)
      ⟨fun h _ heq => Except.error.inj heq ▸ h, fun h => h fault rfl⟩

/-- What a batch comes to of which the texts come to some outcomes: to these, in the order of the
    texts, if it knows of all faults among them, and otherwise to the first fault that it does not
    know of. -/
structure Reports (outcomes : List (Except Fault Package))
    (result : Except Fault (List (Except Fault Package))) : Prop where
  /-- It gives all outcomes. -/
  all : (∀ outcome ∈ outcomes, IsSettled outcome) → result = .ok outcomes
  /-- It ends with a fault. -/
  first : ∀ before fault after, outcomes = before ++ .error fault :: after →
    (∀ outcome ∈ before, IsSettled outcome) → fault.isKnown = false → result = .error fault

/-- The outcomes, once they have been reported. -/
def reported (outcomes : List (Except Fault Package)) :
    Work σ Fault (List (Except Fault Package)) := do
  report 1 outcomes
  return outcomes

/-- Faults that the program knows of are reported on the way to the outcomes that follow. -/
theorem report_append {before : List (Except Fault Package)}
    (h : ∀ outcome ∈ before, IsSettled outcome) (number : Nat)
    (after : List (Except Fault Package)) (s : σ) :
    ∃ number', (report number (before ++ after) s).result = (report number' after s).result := by
  induction before generalizing number with
  | nil => exact ⟨number, rfl⟩
  | cons outcome rest ih =>
    obtain ⟨houtcome, hrest⟩ := List.forall_mem_cons.1 h
    obtain ⟨number', hnumber⟩ := ih hrest (number + 1)
    refine ⟨number', ?_⟩
    rw [← hnumber]
    cases outcome with
    | ok package => rfl
    | error fault =>
      rw [List.cons_append, report, if_pos (houtcome fault rfl), bind_ok (w := Work.tell _) rfl]

theorem reported_result (outcomes : List (Except Fault Package)) (s : σ) :
    (reported outcomes s).result = (report 1 outcomes s).result.map fun _ => outcomes := by
  rcases hrun : report 1 outcomes s with ⟨_ | ⟨⟩, said, s'⟩
  · rw [reported, bind_error hrun]
    rfl
  · rw [reported, bind_ok hrun]
    rfl

theorem reports_reported (outcomes : List (Except Fault Package)) (s : σ) :
    Reports outcomes (reported outcomes s).result where
  all h := by
    obtain ⟨number, hnumber⟩ := report_append h 1 [] s
    rw [List.append_nil] at hnumber
    rw [reported_result, hnumber]
    rfl
  first before fault after houtcomes h hfault := by
    obtain ⟨number, hnumber⟩ := report_append h 1 (.error fault :: after) s
    have hfails : report number (.error fault :: after) s = Work.fail fault s := by
      rw [report, hfault]
      rfl
    rw [reported_result, houtcomes, hnumber, hfails]
    rfl

/-! ## Batches -/

/-- An engine, and texts that have not been taken up. -/
def Crowd.ofTexts (texts : List (List Char)) (e : Engine σ) : Crowd σ :=
  ⟨e, texts.map (⟨·, .fresh⟩)⟩

/-- A batch of which the texts take turns, and that reports what has become of them. -/
def batchInTurns (c : Converters σ) (config : Config) (turns : List Nat)
    (texts : List (List Char)) : Work (Engine σ) Fault (List (Except Fault Package)) := fun e =>
  let crowd := (Crowd.ofTexts texts e).run c config turns
  reported crowd.outcomes crowd.engine

theorem isSound_ofTexts (he : e.IsTrusted c) (texts : List (List Char)) :
    (Crowd.ofTexts texts e).IsSound c config s where
  engine := he
  members m hm := by
    obtain ⟨text, -, rfl⟩ := List.mem_map.1 hm
    trivial

theorem texts_ofTexts (texts : List (List Char)) (e : Engine σ) :
    (Crowd.ofTexts texts e).members.map Member.text = texts := by
  rw [Crowd.ofTexts, List.map_map]
  exact List.map_id texts

theorem restAt_ofTexts (texts : List (List Char)) (e : Engine σ) (place : Nat) :
    (Crowd.ofTexts texts e).restAt place = if place < texts.length then 3 else 0 := by
  rw [Crowd.restAt, Crowd.ofTexts, List.getElem?_map]
  split
  case isTrue hlt =>
    rw [List.getElem?_eq_getElem hlt]
    rfl
  case isFalse hlt =>
    rw [List.getElem?_eq_none (Nat.le_of_not_lt hlt)]
    rfl

/-- Texts that have three turns each are done with, and have come to what they come to alone. -/
theorem outcomes_run (hdet : c.IsDeterministic) (he : e.IsTrusted c) (s : σ) {turns : List Nat}
    {texts : List (List Char)} (hturns : ∀ place < texts.length, 3 ≤ turns.count place) :
    ((Crowd.ofTexts texts e).run c config turns).outcomes = texts.map (alone c config s) := by
  have hsound : (Crowd.ofTexts texts e).IsSound c config s := isSound_ofTexts he texts
  have hdone (place : Nat) : ((Crowd.ofTexts texts e).run c config turns).restAt place = 0 := by
    have hrest := restAt_run hdet s hsound turns place
    rw [restAt_ofTexts] at hrest
    split at hrest
    case isTrue hlt =>
      have hthree := hturns place hlt
      omega
    case isFalse => omega
  rw [(isSound_run hdet s hsound turns).outcomes_eq hdone, texts_run, texts_ofTexts]

/-- A batch takes up its texts, goes on with those that wait, and reports what becomes of them. -/
theorem convertBatch_eq (b : Bridge σ) (config : Config) (order : List Nat)
    (texts : List (List Char)) :
    convertBatch b config order texts
      = (Work.forEach (takeUp b config) texts >>= goOnInOrder b config order
          >>= Work.forEach (outcomeIn b config)) >>= reported := by
  simp only [bind_assoc]
  rfl

/-- The texts of a batch do not depend on each other. Over steps whose answers depend on the
    questions alone, and with an engine that may have been used in any way before, a batch comes
    to what its texts come to alone with new engines: in any order in which the texts go on that
    wait, and if any of them start the engine at the same time. -/
theorem reports_alone (hdet : c.IsDeterministic) (config : Config) (s s₀ : σ) (moves : List Move)
    (texts : List (List Char)) :
    let e := (Gate.run c ⟨{ steps := s₀ }, []⟩ moves).engine
    let outcomes := texts.map (alone c config s)
    (∀ order, Reports outcomes (convertBatch c.bridge config order texts e).result) ∧
      ∀ turns : List Nat, (∀ place < texts.length, 3 ≤ turns.count place) →
        Reports outcomes (batchInTurns c config turns texts e).result := by
  have he : (Gate.run c ⟨{ steps := s₀ }, []⟩ moves).engine.IsTrusted c :=
    Gate.isTrusted_run hdet (fun h => absurd h Bool.false_ne_true) moves
  generalize (Gate.run c ⟨{ steps := s₀ }, []⟩ moves).engine = e at he
  refine ⟨fun order => ?_, fun turns hturns => ?_⟩
  · obtain ⟨_, said, e', hrun, rfl⟩ := (outcomes_gives hdet s order texts).exists_ok he
    rw [convertBatch_eq, bind_ok hrun]
    exact reports_reported _ _
  · rw [batchInTurns, outcomes_run hdet he s hturns]
    exact reports_reported _ _

theorem isDeterministic_silentAtY : Converters.silentAtY.IsDeterministic :=
  ⟨fun _ _ _ => rfl, fun _ _ _ _ => rfl⟩

/-- Two texts with an engine that has been started before; and three with a new one, of which two
    find it not ready, and the one that starts it ends with a fault that nobody knows of. -/
theorem reports_alone_silentAtY :
    let c := Converters.silentAtY
    let started := (Gate.run c ⟨{ steps := () }, []⟩ [.arrive .ready, .go 0, .go 0]).engine
    c.IsDeterministic ∧
      (convertBatch c.bridge .standard [1, 0] [['$', 'x', '$'], ['$', 'z', '$']] started).result
        = .ok [alone c .standard () ['$', 'x', '$'], alone c .standard () ['$', 'z', '$']] ∧
      ∃ fault, alone c .standard () ['$', 'y', '$'] = .error fault ∧
        (batchInTurns c .standard [2, 1, 0, 1, 2, 2, 1, 0, 0]
          [['a'], ['$', 'y', '$'], ['$', 'x', '$']] { steps := () }).result = .error fault := by
  have hy : ¬ IsSettled (alone Converters.silentAtY .standard () ['$', 'y', '$']) := by
    decide +kernel
  simp only [IsSettled, not_forall, Bool.not_eq_true] at hy
  obtain ⟨fault, hfault, hknown⟩ := hy
  refine ⟨isDeterministic_silentAtY, ?_, fault, hfault, ?_⟩
  · refine ((reports_alone isDeterministic_silentAtY .standard () ()
      [.arrive .ready, .go 0, .go 0] _).1 [1, 0]).all ?_
    decide +kernel
  · refine ((reports_alone isDeterministic_silentAtY .standard () () [] _).2 _
      (by decide)).first [alone _ _ _ ['a']] fault _ (by rw [← hfault]; rfl) ?_ hknown
    decide +kernel

end Manuscript.Convert
