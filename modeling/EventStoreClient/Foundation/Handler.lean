/-!
# Handlers

A handler is code that an event loop runs to its end.  It works on a shared state, and
it may be left by a fault, which keeps the changes made before it.
-/

namespace EventStoreClient
namespace Foundation

variable {fault state : Type}

abbrev Handler (fault state result : Type) := ExceptT fault (StateM state) result

namespace Handler

def runOn (h : Handler fault state result) (s : state) : Except fault result × state :=
  h.run.run s

@[simp] theorem runOn_pure (a : result) (s : state) :
    (pure a : Handler fault state result).runOn s = (Except.ok a, s) := rfl

@[simp] theorem runOn_throw (e : fault) (s : state) :
    (throw e : Handler fault state result).runOn s = (Except.error e, s) := rfl

@[simp] theorem runOn_get (s : state) :
    (get : Handler fault state state).runOn s = (Except.ok s, s) := rfl

@[simp] theorem runOn_modify (f : state -> state) (s : state) :
    (modify f : Handler fault state PUnit).runOn s = (Except.ok PUnit.unit, f s) := rfl

@[simp] theorem runOn_bind (h : Handler fault state first)
    (f : first -> Handler fault state second) (s : state) :
    (h >>= f).runOn s =
      match h.runOn s with
      | (Except.ok a, next) => (f a).runOn next
      | (Except.error e, next) => (Except.error e, next) := by
  show ExceptT.bindCont f (h.runOn s).1 (h.runOn s).2 = _
  rcases h.runOn s with ⟨r, next⟩
  cases r <;> rfl

@[simp] theorem runOn_map (f : first -> second) (h : Handler fault state first)
    (s : state) : (f <$> h).runOn s = ((h.runOn s).1.map f, (h.runOn s).2) := by
  rw [map_eq_pure_bind, runOn_bind]
  rcases h.runOn s with ⟨r, next⟩
  cases r <;> rfl

/-!
# Invariants of handlers

An invariant must hold however the handler is left, since a fault keeps the state.
-/

def Keeps (inv : state -> Prop) (h : Handler fault state result) : Prop :=
  forall s, inv s -> inv (h.runOn s).2

variable {inv : state -> Prop}

theorem keeps_pure (a : result) :
    Keeps inv (pure a : Handler fault state result) :=
  fun _ hs => hs

theorem keeps_throw (e : fault) :
    Keeps inv (throw e : Handler fault state result) :=
  fun _ hs => hs

theorem keeps_get : Keeps inv (get : Handler fault state state) :=
  fun _ hs => hs

theorem keeps_modify {f : state -> state} (hf : forall s, inv s -> inv (f s)) :
    Keeps inv (modify f : Handler fault state PUnit) :=
  hf

theorem keeps_bind {h : Handler fault state first}
    {f : first -> Handler fault state second} (hh : Keeps inv h)
    (hf : forall a, Keeps inv (f a)) : Keeps inv (h >>= f) := by
  intro s hs
  have hnext := hh s hs
  rw [runOn_bind]
  rcases hrun : h.runOn s with ⟨r, next⟩
  rw [hrun] at hnext
  cases r with
  | error e => exact hnext
  | ok a => exact hf a next hnext

theorem keeps_and {other : state -> Prop} {h : Handler fault state result}
    (hinv : Keeps inv h) (hother : Keeps other h) :
    Keeps (fun s => inv s ∧ other s) h :=
  fun s hs => ⟨hinv s hs.left, hother s hs.right⟩

theorem keeps_forM {f : element -> Handler fault state PUnit}
    (hf : forall a, Keeps inv (f a)) (elements : List element) :
    Keeps inv (elements.forM f) := by
  induction elements with
  | nil => exact keeps_pure _
  | cons a rest ih => exact keeps_bind (hf a) fun _ => ih

/-- Whichever way the handler is left, it keeps the invariant, and only these faults leave
it. -/
def Guards (inv : state -> Prop) (faults : fault -> Prop)
    (h : Handler fault state result) : Prop :=
  forall s, inv s -> inv (h.runOn s).2 ∧ forall e, (h.runOn s).1 = Except.error e -> faults e

variable {faults : fault -> Prop}

theorem Guards.keeps {h : Handler fault state result} (hguards : Guards inv faults h) :
    Keeps inv h :=
  fun s hs => (hguards s hs).left

theorem Keeps.guards {h : Handler fault state result} (hkeeps : Keeps inv h) :
    Guards inv (fun _ => True) h :=
  fun s hs => ⟨hkeeps s hs, fun _ _ => trivial⟩

theorem guards_pure (a : result) :
    Guards inv faults (pure a : Handler fault state result) := by
  intro s hs
  refine ⟨hs, ?_⟩
  intro e he
  cases he

theorem guards_throw {e : fault} (he : faults e) :
    Guards inv faults (throw e : Handler fault state result) := by
  intro s hs
  refine ⟨hs, ?_⟩
  intro e' he'
  cases he'
  exact he

theorem guards_get : Guards inv faults (get : Handler fault state state) := by
  intro s hs
  refine ⟨hs, ?_⟩
  intro e he
  cases he

theorem guards_modify {f : state -> state} (hf : forall s, inv s -> inv (f s)) :
    Guards inv faults (modify f : Handler fault state PUnit) := by
  intro s hs
  refine ⟨hf s hs, ?_⟩
  intro e he
  cases he

theorem guards_bind {h : Handler fault state first}
    {f : first -> Handler fault state second} (hh : Guards inv faults h)
    (hf : forall a, Guards inv faults (f a)) : Guards inv faults (h >>= f) := by
  intro s hs
  have hnext := hh s hs
  rw [runOn_bind]
  rcases hrun : h.runOn s with ⟨r, next⟩
  rw [hrun] at hnext
  cases r with
  | error e => exact ⟨hnext.left, fun e' he' => by cases he'; exact hnext.right e rfl⟩
  | ok a => exact hf a next hnext.left

theorem guards_forM {f : element -> Handler fault state PUnit}
    (hf : forall a, Guards inv faults (f a)) (elements : List element) :
    Guards inv faults (elements.forM f) := by
  induction elements with
  | nil => exact guards_pure _
  | cons a rest ih => exact guards_bind (hf a) fun _ => ih

theorem after_bind {post : state -> Prop} {h : Handler fault state first}
    {f : first -> Handler fault state second} (hh : Keeps inv h)
    (hinv : forall s, inv s -> post s)
    (hf : forall a s, inv s -> post ((f a).runOn s).2) {s : state} (hs : inv s) :
    post ((h >>= f).runOn s).2 := by
  have hnext := hh s hs
  rw [runOn_bind]
  rcases hrun : h.runOn s with ⟨r, next⟩
  rw [hrun] at hnext
  cases r with
  | error e => exact hinv next hnext
  | ok a => exact hf a next hnext

theorem after_modify {post : state -> Prop} {g : state -> state}
    {f : PUnit -> Handler fault state second} {s : state}
    (h : post ((f PUnit.unit).runOn (g s)).2) : post ((modify g >>= f).runOn s).2 := by
  simpa using h

def Returns (post : result -> Prop) (h : Handler fault state result) : Prop :=
  forall s a, (h.runOn s).1 = Except.ok a -> post a

variable {post : result -> Prop}

theorem returns_pure {a : result} (ha : post a) :
    Returns post (pure a : Handler fault state result) := by
  intro s a' h
  cases h
  exact ha

theorem returns_bind {h : Handler fault state first}
    {f : first -> Handler fault state result} (hf : forall a, Returns post (f a)) :
    Returns post (h >>= f) := by
  intro s a hresult
  rw [runOn_bind] at hresult
  rcases hrun : h.runOn s with ⟨r, next⟩
  rw [hrun] at hresult
  cases r with
  | error e => cases hresult
  | ok b => exact hf b next a hresult

/-!
# Outcomes

What a handler does can be said up to an escape: it does this, or it has got into states
about which nothing needs to be said.
-/

def Unless (escape : state -> Prop) (h : Handler fault state result) (s : state)
    (outcome : Except fault result × state) : Prop :=
  h.runOn s = outcome ∨ escape (h.runOn s).2

variable {escape : state -> Prop}

theorem unless_of_eq {h : Handler fault state result} {s : state}
    {outcome : Except fault result × state} (hrun : h.runOn s = outcome) :
    Unless escape h s outcome :=
  Or.inl hrun

theorem Unless.eq {h : Handler fault state result} {s : state}
    {outcome : Except fault result × state} (hrun : Unless (fun _ => False) h s outcome) :
    h.runOn s = outcome :=
  hrun.resolve_right id

theorem Unless.bind {h : Handler fault state first} {f : first -> Handler fault state second}
    {s next : state} {a : first} {outcome : Except fault second × state}
    (hh : Unless escape h s (Except.ok a, next)) (hkeeps : forall a, Keeps escape (f a))
    (hf : Unless escape (f a) next outcome) : Unless escape (h >>= f) s outcome := by
  cases hh with
  | inl hrun =>
      unfold Unless
      rw [runOn_bind, hrun]
      exact hf
  | inr hescaped =>
      right
      rw [runOn_bind]
      rcases hrun : h.runOn s with ⟨r, after⟩
      rw [hrun] at hescaped
      cases r with
      | error e => exact hescaped
      | ok a' => exact hkeeps a' after hescaped

/-!
# Projections

A handler over a larger state may be the other one with something added that the
projection forgets, such as a record of what it does.
-/

def Projects (f : state -> other) (h : Handler fault state result)
    (h' : Handler fault other result) : Prop :=
  forall s, h'.runOn (f s) = ((h.runOn s).1, f (h.runOn s).2)

variable {f : state -> other}

theorem projects_pure (a : result) :
    Projects f (pure a : Handler fault state result) (pure a) :=
  fun _ => rfl

theorem projects_throw (e : fault) :
    Projects f (throw e : Handler fault state result) (throw e) :=
  fun _ => rfl

theorem projects_modify {g : state -> state} {g' : other -> other}
    (hg : forall s, g' (f s) = f (g s)) :
    Projects f (modify g : Handler fault state PUnit) (modify g') := by
  intro s
  simp [hg]

theorem projects_bind {h : Handler fault state first} {h' : Handler fault other first}
    {k : first -> Handler fault state second} {k' : first -> Handler fault other second}
    (hh : Projects f h h') (hk : forall a, Projects f (k a) (k' a)) :
    Projects f (h >>= k) (h' >>= k') := by
  intro s
  have hnext := hh s
  rw [runOn_bind, runOn_bind, hnext]
  rcases h.runOn s with ⟨r, next⟩
  cases r with
  | error e => rfl
  | ok a => exact hk a next

theorem projects_get_bind {k : state -> Handler fault state second}
    {k' : other -> Handler fault other second}
    (hk : forall s, Projects f (k s) (k' (f s))) :
    Projects f (get >>= k) (get >>= k') := by
  intro s
  simpa using hk s s

theorem projects_ite {p : Prop} [Decidable p] {h k : Handler fault state result}
    {h' k' : Handler fault other result} (hh : Projects f h h') (hk : Projects f k k') :
    Projects f (if p then h else k) (if p then h' else k') := by
  split
  · exact hh
  · exact hk

theorem projects_forM {h : element -> Handler fault state PUnit}
    {h' : element -> Handler fault other PUnit} (hh : forall a, Projects f (h a) (h' a))
    (elements : List element) : Projects f (elements.forM h) (elements.forM h') := by
  induction elements with
  | nil => exact projects_pure _
  | cons a rest ih => exact projects_bind (hh a) fun _ => ih

theorem projects_forM_singleton {h : element -> Handler fault state PUnit}
    {h' : Handler fault other PUnit} {a : element} (hh : Projects f (h a) h') :
    Projects f ([a].forM h) h' := by
  intro s
  have hforM : [a].forM h = h a >>= fun _ => pure PUnit.unit := rfl
  rw [hh s, hforM, runOn_bind]
  rcases (h a).runOn s with ⟨r, next⟩
  cases r <;> rfl

theorem projects_modify_bind {g : state -> state} {k : Handler fault state result}
    {k' : Handler fault other result} (hg : forall s, f (g s) = f s) (hk : Projects f k k') :
    Projects f (modify g >>= fun _ => k) k' := by
  intro s
  rw [runOn_bind, runOn_modify, ← hg s]
  exact hk (g s)

theorem projects_bind_modify {g : state -> state} {h : Handler fault state PUnit}
    {h' : Handler fault other PUnit} (hh : Projects f h h') (hg : forall s, f (g s) = f s) :
    Projects f (h >>= fun _ => modify g) h' := by
  intro s
  rw [hh s, runOn_bind]
  rcases h.runOn s with ⟨r, next⟩
  cases r with
  | error e => rfl
  | ok _ => exact Prod.ext rfl (hg next).symm

end Handler

end Foundation
end EventStoreClient
