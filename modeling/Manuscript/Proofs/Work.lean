import Manuscript.Work
import Mathlib.Data.List.Forall2

/-!
# What activities come to

How activities end, whatever they say on the way, with one rule for each way to put
activities together.

* how activities that follow each other are bracketed makes no difference (`LawfulMonad`);
* `Work.Ends`: one activity ends with a value or with a fault, and a relation holds of
  either and of the state that is left;
* `Work.Keeps`: a property of the state survives an activity, whatever state it starts at,
  and `Work.Gives`: what it gives has a property;
* `Work.Pairs`: two activities, each on a state of its own, end with the same fault, or
  both end with values, and then a relation holds of the values and of the states;
* `Work.Mirrors`: two activities on one state end alike, but for what is made of the value;
* `Work.Follows`: two activities, each on a state of its own, give the same with the same
  notices, and leave states in a relation if they start at such.
-/

namespace Manuscript.Work

open Manuscript.Log

variable {σ τ ε α β : Type} {w : Work σ ε α} {v : Work τ ε β} {s : σ} {t : τ}

/-! ## Laws -/

theorem andThen_done (w : Work σ ε α) : (w >>= fun a => pure a) = w := by
  funext s
  rcases hw : w s with ⟨_ | a, said, s'⟩
  · exact bind_error hw
  · rw [bind_ok hw, pure_apply, List.append_nil]

theorem andThen_andThen {γ : Type} (w : Work σ ε α) (next : α → Work σ ε β)
    (last : β → Work σ ε γ) :
    (w >>= next) >>= last = w >>= fun a => next a >>= last := by
  funext s
  rcases hw : w s with ⟨_ | a, said, s'⟩
  · rw [bind_error hw, bind_error (bind_error hw)]
  · rcases hnext : next a s' with ⟨_ | b, said', s''⟩
    · have hboth : (w >>= next) s = ⟨.error _, said ++ said', s''⟩ :=
        (bind_ok hw).trans (by rw [hnext])
      rw [bind_ok hw, bind_error hboth, bind_error hnext]
    · have hboth : (w >>= next) s = ⟨.ok b, said ++ said', s''⟩ :=
        (bind_ok hw).trans (by rw [hnext])
      rw [bind_ok hw, bind_ok hboth, bind_ok hnext, List.append_assoc]

instance : LawfulMonad (Work σ ε) :=
  .mk' _ andThen_done (fun _ _ => rfl) andThen_andThen

/-- An activity for each member of a list, and then for each of another. -/
theorem forEach_append (f : α → Work σ ε β) (as bs : List α) :
    forEach f (as ++ bs) = do
      let xs ← forEach f as
      let ys ← forEach f bs
      return xs ++ ys := by
  induction as with
  | nil => exact (andThen_done _).symm
  | cons a rest ih => simp only [List.cons_append, forEach, ih, bind_assoc, pure_bind]

/-! ## One activity -/

/-- An activity ends with a value and a state in a relation, or with a fault and a state
    in another. -/
inductive Ends (w : Work σ ε α) (s : σ) (P : α → σ → Prop) (F : ε → σ → Prop) : Prop where
  /-- It ends with a value. -/
  | of_ok {a : α} {said : List Notice} {s' : σ} (run : w s = ⟨.ok a, said, s'⟩) (holds : P a s')
  /-- It ends with a fault. -/
  | of_error {e : ε} {said : List Notice} {s' : σ} (run : w s = ⟨.error e, said, s'⟩)
      (fails : F e s')

namespace Ends

variable {P : α → σ → Prop} {F : ε → σ → Prop}

theorem pure {a : α} (h : P a s) : Ends (Pure.pure a : Work σ ε α) s P F := of_ok rfl h

theorem fail {e : ε} (h : F e s) : Ends (Work.fail e) s P F := of_error rfl h

theorem tell {n : Notice} {P : Unit → σ → Prop} (h : P () s) :
    Ends (Work.tell n : Work σ ε Unit) s P F :=
  of_ok rfl h

/-- A value that it ends with is in the first relation. -/
theorem of_result_ok (h : Ends w s P F) {a : α} (ha : (w s).result = .ok a) :
    P a (w s).state := by
  cases h with
  | of_ok run holds =>
    rw [run] at ha ⊢
    cases ha
    exact holds
  | of_error run =>
    rw [run] at ha
    cases ha

theorem mono {R : α → σ → Prop} {G : ε → σ → Prop} (h : Ends w s R G)
    (hok : ∀ a s', R a s' → P a s') (herror : ∀ e s', G e s' → F e s') : Ends w s P F := by
  cases h with
  | of_ok run holds => exact of_ok run (hok _ _ holds)
  | of_error run fails => exact of_error run (herror _ _ fails)

/-- A step, then what follows with what the step gave. -/
theorem bind {R : β → σ → Prop} {v : Work σ ε β} {next : β → Work σ ε α} (h : Ends v s R F)
    (hnext : ∀ b s', R b s' → Ends (next b) s' P F) : Ends (v >>= next) s P F := by
  cases h with
  | of_ok run holds =>
    cases hnext _ _ holds with
    | of_ok run' holds' => exact of_ok ((bind_ok run).trans (by rw [run'])) holds'
    | of_error run' fails' => exact of_error ((bind_ok run).trans (by rw [run'])) fails'
  | of_error run fails => exact of_error (bind_error run) fails

/-- What is done with the state that is read. -/
theorem read {next : σ → Work σ ε α} (h : Ends (next s) s P F) :
    Ends (Work.state >>= next) s P F :=
  .bind (R := fun a s' => a = s ∧ s' = s) (.of_ok rfl ⟨rfl, rfl⟩) fun _ _ ⟨ha, hs⟩ => ha ▸ hs ▸ h

/-- What is done after the state is replaced. -/
theorem put {s' : σ} {next : Unit → Work σ ε α} (h : Ends (next ()) s' P F) :
    Ends (Work.put s' >>= next) s P F :=
  .bind (R := fun _ s'' => s'' = s') (.of_ok rfl rfl) fun _ _ hs => hs ▸ h

/-- Other names for faults. -/
theorem mapFault {δ : Type} {f : ε → δ} {F : δ → σ → Prop}
    (h : Ends w s P fun e s' => F (f e) s') : Ends (mapFault f w) s P F := by
  cases h with
  | of_ok run holds => exact of_ok (by simp only [Work.mapFault, run]; rfl) holds
  | of_error run fails => exact of_error (by simp only [Work.mapFault, run]; rfl) fails

/-- An activity in the place of a fault. -/
theorem onFault {G : ε → σ → Prop} {rescue : ε → Work σ ε α} (h : Ends w s P G)
    (hrescue : ∀ e s', G e s' → Ends (rescue e) s' P F) :
    Ends (Work.onFault w rescue) s P F := by
  cases h with
  | of_ok run holds => exact of_ok (by simp only [Work.onFault, run]; rfl) holds
  | of_error run fails =>
    cases hrescue _ _ fails with
    | of_ok run' holds' => exact of_ok (by simp only [Work.onFault, run, run']; rfl) holds'
    | of_error run' fails' => exact of_error (by simp only [Work.onFault, run, run']; rfl) fails'

end Ends

/-- What follows takes a step as it is from the state that it starts at. -/
theorem bind_apply_congr {v : Work σ ε α} {next : α → Work σ ε β} (h : w s = v s) :
    (w >>= next) s = (v >>= next) s := by
  simp only [bind, andThen, h]

/-- A step and what follows end with a value if both do. -/
theorem exists_of_bind {next : α → Work σ ε β} {b : β} (h : ((w >>= next) s).result = .ok b) :
    ∃ a said s', w s = ⟨.ok a, said, s'⟩ ∧ (next a s').result = .ok b := by
  rcases hw : w s with ⟨_ | a, said, s'⟩
  · rw [bind_error hw] at h
    cases h
  · rw [bind_ok hw] at h
    exact ⟨a, said, s', rfl, h⟩

/-- Other names for faults leave a value as it is. -/
theorem mapFault_ok {δ : Type} (f : ε → δ) {a : α} {said : List Notice} {s' : σ}
    (h : w s = ⟨.ok a, said, s'⟩) : mapFault f w s = ⟨.ok a, said, s'⟩ := by
  simp only [mapFault, h]
  rfl

theorem mapFault_error {δ : Type} (f : ε → δ) {e : ε} {said : List Notice} {s' : σ}
    (h : w s = ⟨.error e, said, s'⟩) : mapFault f w s = ⟨.error (f e), said, s'⟩ := by
  simp only [mapFault, h]
  rfl

/-- What is made of a value in the end has no part in whether there is one. -/
theorem exists_result_map {f : α → β} :
    (∃ b, ((w >>= fun a => Pure.pure (f a)) s).result = .ok b) ↔ ∃ a, (w s).result = .ok a := by
  rcases hw : w s with ⟨e | a, said, s'⟩
  · rw [bind_error hw]
    exact ⟨fun ⟨_, h⟩ => (nomatch h), fun ⟨_, h⟩ => (nomatch h)⟩
  · rw [bind_ok hw]
    exact ⟨fun _ => ⟨a, rfl⟩, fun _ => ⟨f a, rfl⟩⟩

/-! ## Properties of the state -/

/-- From every state with a property `I`, an activity comes to one that has it too, and what
    it gives has a property of its own. It may end with a fault only if `fallible` holds. -/
def Keeps (I : σ → Prop) (fallible : Prop) (w : Work σ ε α) (P : α → Prop) : Prop :=
  ∀ s, I s → Ends w s (fun a s' => I s' ∧ P a) fun _ s' => fallible ∧ I s'

namespace Keeps

variable {I : σ → Prop} {fallible : Prop} {P : α → Prop} {Q : β → Prop}

theorem pure {a : α} (h : P a) : Keeps I fallible (Pure.pure a : Work σ ε α) P :=
  fun _ hs => .pure ⟨hs, h⟩

theorem fail {e : ε} (h : fallible) : Keeps I fallible (Work.fail e : Work σ ε α) P :=
  fun _ hs => .fail ⟨h, hs⟩

theorem tell (n : Notice) : Keeps I fallible (Work.tell n : Work σ ε Unit) fun _ => True :=
  fun _ hs => .tell ⟨hs, trivial⟩

theorem mono (h : Keeps I fallible w P) {R : α → Prop} (himp : ∀ a, P a → R a) :
    Keeps I fallible w R :=
  fun s hs => (h s hs).mono (fun a _ ⟨hs', ha⟩ => ⟨hs', himp a ha⟩) fun _ _ h => h

/-- A step, then what follows with what the step gave. -/
theorem bind {next : α → Work σ ε β} (h : Keeps I fallible w P)
    (hnext : ∀ a, P a → Keeps I fallible (next a) Q) : Keeps I fallible (w >>= next) Q :=
  fun s hs => (h s hs).bind fun a s' ⟨hs', ha⟩ => hnext a ha s' hs'

/-- An activity for each member of a list. -/
theorem forEach {f : β → Work σ ε α} {bs : List β} (h : ∀ b ∈ bs, Keeps I fallible (f b) P) :
    Keeps I fallible (Work.forEach f bs) fun as => ∀ a ∈ as, P a := by
  induction bs with
  | nil => exact .pure (by simp)
  | cons b rest ih =>
    obtain ⟨hb, hrest⟩ := List.forall_mem_cons.1 h
    exact hb.bind fun a ha => (ih hrest).bind fun as has => .pure (List.forall_mem_cons.2 ⟨ha, has⟩)

/-- An activity for each member of a list, the members of which belong to those of another. -/
theorem forEach_forall₂ {γ : Type} {A : γ → β → Prop} {P : γ → α → Prop} {f : β → Work σ ε α}
    {cs : List γ} {bs : List β} (hbs : List.Forall₂ A cs bs)
    (h : ∀ c b, A c b → Keeps I fallible (f b) (P c)) :
    Keeps I fallible (Work.forEach f bs) (List.Forall₂ P cs) := by
  induction hbs with
  | nil => exact .pure .nil
  | cons hb _ ih =>
    exact (h _ _ hb).bind fun _ ha => ih.bind fun _ has => .pure (.cons ha has)

theorem mapFault {δ : Type} (g : ε → δ) (h : Keeps I fallible w P) :
    Keeps I fallible (Work.mapFault g w) P := fun s hs => .mapFault (h s hs)

/-- Any activity that leaves such a state gives something. -/
theorem of_state (h : ∀ s, I s → I (w s).state) : Keeps I True w fun _ => True := fun s hs => by
  have hs' := h s hs
  rcases hw : w s with ⟨e | a, said, s'⟩
  · rw [hw] at hs'
    exact .of_error hw ⟨trivial, hs'⟩
  · rw [hw] at hs'
    exact .of_ok hw ⟨hs', trivial⟩

theorem state (h : Keeps I fallible w P) (hs : I s) : I (w s).state := by
  cases h s hs with
  | of_ok run holds => exact run ▸ holds.1
  | of_error run fails => exact run ▸ fails.2

/-- An activity that never fails gives a value. -/
theorem exists_ok (h : Keeps I False w P) (hs : I s) :
    ∃ a said s', w s = ⟨.ok a, said, s'⟩ ∧ P a := by
  cases h s hs with
  | of_ok run holds => exact ⟨_, _, _, run, holds.2⟩
  | of_error _ fails => exact fails.1.elim

end Keeps

/-- What an activity gives has a property, whatever state it starts at. -/
abbrev Gives (w : Work σ ε α) (P : α → Prop) : Prop := Keeps (fun _ => True) True w P

namespace Gives

variable {P : α → Prop}

theorem of_forall (w : Work σ ε α) (h : ∀ a, P a) : Gives w P := fun s _ => by
  rcases hw : w s with ⟨e | a, said, s'⟩
  · exact .of_error hw ⟨trivial, trivial⟩
  · exact .of_ok hw ⟨trivial, h a⟩

theorem of_run (h : Gives w P) {a : α} {said : List Notice} {s' : σ}
    (run : w s = ⟨.ok a, said, s'⟩) : P a :=
  ((h s trivial).of_result_ok (congrArg Outcome.result run)).2

/-- An activity for each member of a list gives something for each of them. -/
theorem forEach {f : β → Work σ ε α} {P : β → α → Prop} (h : ∀ b, Gives (f b) (P b))
    (bs : List β) : Gives (Work.forEach f bs) (List.Forall₂ P bs) :=
  Keeps.forEach_forall₂ (A := Eq) (List.forall₂_same.2 fun _ _ => rfl) fun _ b hb => hb ▸ h b

/-- What follows an activity only matters for what the activity gives. -/
theorem bind_congr (h : Gives w P) {next next' : α → Work σ ε β}
    (hnext : ∀ a, P a → next a = next' a) : w >>= next = w >>= next' := by
  funext s
  cases h s trivial with
  | of_ok run holds => rw [bind_ok run, bind_ok run, hnext _ holds.2]
  | of_error run => rw [bind_error run, bind_error run]

end Gives

/-! ## Two activities -/

variable {Q : α → σ → β → τ → Prop}

/-- Both activities end with the same fault, or with values and states in a relation. -/
inductive Pairs (w : Work σ ε α) (s : σ) (v : Work τ ε β) (t : τ) (Q : α → σ → β → τ → Prop) :
    Prop where
  /-- Both end with a value. -/
  | of_ok {a : α} {b : β} {said said' : List Notice} {s' : σ} {t' : τ}
      (left : w s = ⟨.ok a, said, s'⟩) (right : v t = ⟨.ok b, said', t'⟩) (holds : Q a s' b t')
  /-- Both end with one fault. -/
  | of_error {e : ε} {said said' : List Notice} {s' : σ} {t' : τ}
      (left : w s = ⟨.error e, said, s'⟩) (right : v t = ⟨.error e, said', t'⟩)

namespace Pairs

theorem pure {a : α} {b : β} (h : Q a s b t) :
    Pairs (Pure.pure a : Work σ ε α) s (Pure.pure b : Work τ ε β) t Q :=
  of_ok rfl rfl h

theorem fail {e : ε} : Pairs (fail e) s (fail e) t Q := of_error rfl rfl

theorem tell {m n : Notice} {Q : Unit → σ → Unit → τ → Prop} (h : Q () s () t) :
    Pairs (tell m : Work σ ε Unit) s (tell n : Work τ ε Unit) t Q :=
  of_ok rfl rfl h

theorem mono {R : α → σ → β → τ → Prop} (h : Pairs w s v t R)
    (himp : ∀ a s' b t', R a s' b t' → Q a s' b t') : Pairs w s v t Q := by
  cases h with
  | of_ok hw hv holds => exact of_ok hw hv (himp _ _ _ _ holds)
  | of_error hw hv => exact of_error hw hv

/-- A step on each side, then what follows with what the steps gave. -/
theorem bind {α' β' : Type} {next : α → Work σ ε α'} {next' : β → Work τ ε β'}
    {R : α → σ → β → τ → Prop} {Q : α' → σ → β' → τ → Prop} (h : Pairs w s v t R)
    (hnext : ∀ a s' b t', R a s' b t' → Pairs (next a) s' (next' b) t' Q) :
    Pairs (w >>= next) s (v >>= next') t Q := by
  cases h with
  | of_ok hw hv holds =>
    have hw : (w >>= next) s = _ := bind_ok hw
    have hv : (v >>= next') t = _ := bind_ok hv
    cases hnext _ _ _ _ holds with
    | of_ok hw' hv' holds' =>
      rw [hw'] at hw
      rw [hv'] at hv
      exact of_ok hw hv holds'
    | of_error hw' hv' =>
      rw [hw'] at hw
      rw [hv'] at hv
      exact of_error hw hv
  | of_error hw hv => exact of_error (bind_error hw) (bind_error hv)

end Pairs

/-! ## Two activities on one state -/

/-- An activity ends as another does, with a value made from that of the other, and leaves the
    same state; it may give other notices. -/
def Mirrors (w : Work σ ε α) (v : Work σ ε β) (f : β → α) : Prop :=
  ∀ s, (w s).result = (v s).result.map f ∧ (w s).state = (v s).state

namespace Mirrors

variable {v : Work σ ε β} {f : β → α}

theorem pure {a : α} {b : β} (h : a = f b) :
    Mirrors (Pure.pure a : Work σ ε α) (Pure.pure b) f :=
  fun _ => ⟨congrArg Except.ok h, rfl⟩

/-- A step on each side, then what follows with what the steps gave. -/
theorem bind {α' β' : Type} {next : α → Work σ ε α'} {next' : β → Work σ ε β'} {f' : β' → α'}
    (h : Mirrors w v f) (hnext : ∀ b, Mirrors (next (f b)) (next' b) f') :
    Mirrors (w >>= next) (v >>= next') f' := by
  intro s
  obtain ⟨hresult, hstate⟩ := h s
  rcases hv : v s with ⟨e | b, said, s'⟩
  · rcases hw : w s with ⟨r, said', s''⟩
    rw [hv, hw] at hresult hstate
    obtain rfl : r = .error e := hresult
    rw [bind_error hv, bind_error hw]
    exact ⟨rfl, hstate⟩
  · rcases hw : w s with ⟨r, said', s''⟩
    rw [hv, hw] at hresult hstate
    obtain rfl : r = .ok (f b) := hresult
    obtain rfl : s'' = s' := hstate
    rw [bind_ok hv, bind_ok hw]
    exact hnext b s''

theorem refl (w : Work σ ε α) : Mirrors w w id := fun s => by
  cases (w s).result <;> exact ⟨rfl, rfl⟩

theorem trans {γ : Type} {u : Work σ ε γ} {g : γ → β} (h : Mirrors w v f) (h' : Mirrors v u g) :
    Mirrors w u (f ∘ g) := fun s => by
  rw [(h s).1, (h s).2, (h' s).1, (h' s).2]
  cases (u s).result <;> exact ⟨rfl, rfl⟩

/-- What the other activity gives is all that has to be made something of. -/
theorem congr {P : β → Prop} {g : β → α} (h : Mirrors w v f) (hv : Gives v P)
    (hf : ∀ b, P b → f b = g b) : Mirrors w v g := by
  intro s
  obtain ⟨hresult, hstate⟩ := h s
  refine ⟨?_, hstate⟩
  rcases hs : v s with ⟨e | b, said, s'⟩
  · rw [hs] at hresult
    exact hresult
  · rw [hs] at hresult
    exact hresult.trans (congrArg Except.ok (hf b (hv.of_run hs)))

/-- Two steps on each side, and what is made of their values. -/
theorem both {α' β' γ δ : Type} {w' : Work σ ε α'} {v' : Work σ ε β'} {f' : β' → α'}
    {g : α → α' → γ} {g' : β → β' → δ} {k : δ → γ} (h : Mirrors w v f) (h' : Mirrors w' v' f')
    (hg : ∀ b b', g (f b) (f' b') = k (g' b b')) :
    Mirrors (do
        let a ← w
        let a' ← w'
        return g a a') (do
        let b ← v
        let b' ← v'
        return g' b b') k :=
  h.bind fun b => h'.bind fun b' => .pure (hg b b')

/-- What is made of the value in the end. -/
theorem map {γ : Type} (h : Mirrors w v f) (g : α → γ) :
    Mirrors (w >>= fun a => Pure.pure (g a)) v (g ∘ f) := by
  rw [← andThen_done v]
  exact h.bind fun b => .pure rfl

/-- A notice comes first. -/
theorem tell {w : Unit → Work σ ε α} (h : Mirrors (w ()) v f) (n : Notice) :
    Mirrors (Work.tell n >>= w) v f := h

end Mirrors

/-! ## Two activities in step -/

/-- From related states, two activities give the same, with the same notices, and leave related
    states. -/
def Follows (R : σ → τ → Prop) (w : Work σ ε α) (v : Work τ ε α) : Prop :=
  ∀ s t, R s t →
    (w s).result = (v t).result ∧ (w s).notices = (v t).notices ∧ R (w s).state (v t).state

namespace Follows

variable {R : σ → τ → Prop} {v : Work τ ε α}

theorem pure (a : α) : Follows R (Pure.pure a : Work σ ε α) (Pure.pure a) :=
  fun _ _ h => ⟨rfl, rfl, h⟩

theorem tell (n : Notice) : Follows R (Work.tell n : Work σ ε Unit) (Work.tell n) :=
  fun _ _ h => ⟨rfl, rfl, h⟩

theorem ofExcept (r : Except ε α) : Follows R (Work.ofExcept r : Work σ ε α) (Work.ofExcept r) :=
  fun _ _ h => ⟨rfl, rfl, h⟩

theorem fail (e : ε) : Follows R (Work.fail e : Work σ ε α) (Work.fail e) := ofExcept (.error e)

theorem put {s : σ} {t : τ} (h : R s t) : Follows R (Work.put s : Work σ ε Unit) (Work.put t) :=
  fun _ _ _ => ⟨rfl, rfl, h⟩

/-- A step on each side, then what follows with what both gave, which is something that the step
    can give. -/
theorem bind_of_run {next : α → Work σ ε β} {next' : α → Work τ ε β} (h : Follows R w v)
    (hnext : ∀ s a, (w s).result = .ok a → Follows R (next a) (next' a)) :
    Follows R (w >>= next) (v >>= next') := by
  intro s t hst
  obtain ⟨hresult, hsaid, hstate⟩ := h s t hst
  rcases hw : w s with ⟨r, said, s'⟩
  rcases hv : v t with ⟨r', said', t'⟩
  rw [hw, hv] at hresult hsaid hstate
  obtain rfl : r = r' := hresult
  obtain rfl : said = said' := hsaid
  cases r with
  | error e =>
    rw [bind_error hw, bind_error hv]
    exact ⟨rfl, rfl, hstate⟩
  | ok a =>
    rw [bind_ok hw, bind_ok hv]
    have hrun : (w s).result = .ok a := by rw [hw]
    obtain ⟨hresult, hsaid, hstate⟩ := hnext s a hrun s' t' hstate
    exact ⟨hresult, congrArg (said ++ ·) hsaid, hstate⟩

theorem bind {next : α → Work σ ε β} {next' : α → Work τ ε β} (h : Follows R w v)
    (hnext : ∀ a, Follows R (next a) (next' a)) : Follows R (w >>= next) (v >>= next') :=
  h.bind_of_run fun _ a _ => hnext a

/-- What is done with the states that are read may depend on them. -/
theorem read {next : σ → Work σ ε α} {next' : τ → Work τ ε α}
    (h : ∀ s t, R s t → Follows R (next s) (next' t)) :
    Follows R (Work.state >>= next) (Work.state >>= next') :=
  fun s t hst => h s t hst s t hst

theorem mapFault {δ : Type} (g : ε → δ) (h : Follows R w v) :
    Follows R (Work.mapFault g w) (Work.mapFault g v) := fun s t hst =>
  have ⟨hresult, hsaid, hstate⟩ := h s t hst
  ⟨congrArg (Except.mapError g) hresult, hsaid, hstate⟩

/-- An activity on each side that takes the place of a fault. -/
theorem onFault {rescue : ε → Work σ ε α} {rescue' : ε → Work τ ε α} (h : Follows R w v)
    (hrescue : ∀ e, Follows R (rescue e) (rescue' e)) :
    Follows R (Work.onFault w rescue) (Work.onFault v rescue') := by
  intro s t hst
  obtain ⟨hresult, hsaid, hstate⟩ := h s t hst
  rcases hw : w s with ⟨r, said, s'⟩
  rcases hv : v t with ⟨r', said', t'⟩
  rw [hw, hv] at hresult hsaid hstate
  obtain rfl : r = r' := hresult
  obtain rfl : said = said' := hsaid
  simp only [Work.onFault, hw, hv]
  cases r with
  | ok a => exact ⟨rfl, rfl, hstate⟩
  | error e =>
    obtain ⟨hresult, hsaid, hstate⟩ := hrescue e s' t' hstate
    exact ⟨hresult, congrArg (said ++ ·) hsaid, hstate⟩

/-- An activity for each member of a list. -/
theorem forEach {f : β → Work σ ε α} {f' : β → Work τ ε α} {bs : List β}
    (h : ∀ b ∈ bs, Follows R (f b) (f' b)) :
    Follows R (Work.forEach f bs) (Work.forEach f' bs) := by
  induction bs with
  | nil => exact .pure []
  | cons b rest ih =>
    obtain ⟨hb, hrest⟩ := List.forall_mem_cons.1 h
    exact hb.bind fun _ => (ih hrest).bind fun _ => .pure _

end Follows

end Manuscript.Work
