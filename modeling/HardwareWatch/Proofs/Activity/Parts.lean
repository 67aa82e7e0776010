import HardwareWatch.Proofs.Activity.Moves
import HardwareWatch.Proofs.Activity.AtSite

/-!
# The parts of an activity

Parts that are done one after the other and parts that are done at the same time have this in
common: each of them is done once, and all that happens meanwhile are changes of the others.

* `Activity.OneRunEach` puts a run together from one run of each part. `Activity.runs_mapM_iff` and
  `Activity.runs_all_iff` say that these are the runs of all parts, in either order of doing them.
* `Activity.ends_both`, `Activity.ends_all` and `Activity.ends_mapM` are rules of rely and
  guarantee. Where the parts make only changes that the others put up with, each part comes to its
  end amid changes that it puts up with.
* `Activity.Ends.path` says which changes an activity made, if nobody else was there.
-/

namespace HardwareWatch.Activity

variable {w : Surroundings} {α β γ ι : Type} {E F : Resource → Resource → Prop} {r r' r'' : Resource}

/-! ## One run of each part -/

/-- Some runs, one for each part: the changes of all of them, and their results. -/
inductive OneRunEach (w : Surroundings) (f : ι → Activity β) :
    List ι → Multiset Change → List β → Prop
  | nil : OneRunEach w f [] 0 []
  | cons {i : ι} {l : List ι} {cs cs' : Multiset Change} {b : β} {bs : List β}
      (h : Runs w (f i) cs (some b)) (h' : OneRunEach w f l cs' bs) :
    OneRunEach w f (i :: l) (cs + cs') (b :: bs)

section OneRunEach

variable {f : ι → Activity β} {i : ι} {l l' : List ι} {cs cs' : Multiset Change} {bs bs' : List β}

theorem oneRunEach_nil_iff : OneRunEach w f [] cs bs ↔ cs = 0 ∧ bs = [] := by
  constructor
  · intro h
    cases h with
    | nil => exact ⟨rfl, rfl⟩
  · rintro ⟨rfl, rfl⟩
    exact .nil

theorem oneRunEach_cons_iff : OneRunEach w f (i :: l) cs bs ↔ ∃ cs₁ cs₂ b rest,
    cs = cs₁ + cs₂ ∧ bs = b :: rest ∧ Runs w (f i) cs₁ (some b) ∧ OneRunEach w f l cs₂ rest := by
  constructor
  · intro h
    cases h with
    | cons h h' => exact ⟨_, _, _, _, rfl, rfl, h, h'⟩
  · rintro ⟨cs₁, cs₂, b, rest, rfl, rfl, h, h'⟩
    exact .cons h h'

theorem OneRunEach.append (h : OneRunEach w f l cs bs) (h' : OneRunEach w f l' cs' bs') :
    OneRunEach w f (l ++ l') (cs + cs') (bs ++ bs') := by
  induction h with
  | nil => rwa [zero_add]
  | cons h _ ih =>
    rw [add_assoc]
    exact .cons h ih

/-- **The runs of parts one after the other** are made of one run of each part. -/
theorem runs_mapM_iff : Runs w (l.mapM f) cs (some bs) ↔ OneRunEach w f l cs bs := by
  induction l generalizing cs bs with
  | nil =>
    rw [List.mapM_nil, runs_pure_some_iff, oneRunEach_nil_iff]
  | cons i l ih =>
    rw [List.mapM_cons, runs_bind_some_iff, oneRunEach_cons_iff]
    constructor
    · rintro ⟨b, cs₁, cs', rfl, hi, h⟩
      obtain ⟨rest, cs₂, _, rfl, hrest, h⟩ := runs_bind_some_iff.1 h
      obtain ⟨rfl, rfl⟩ := runs_pure_some_iff.1 h
      exact ⟨cs₁, cs₂ + 0, b, rest, rfl, rfl, hi, by rwa [add_zero, ← ih]⟩
    · rintro ⟨cs₁, cs₂, b, rest, rfl, rfl, hi, hrest⟩
      exact ⟨b, cs₁, cs₂, rfl, hi, runs_bind_some_iff.2
        ⟨rest, cs₂, 0, (add_zero cs₂).symm, ih.2 hrest, runs_pure_some_iff.2 ⟨rfl, rfl⟩⟩⟩

/-- **The runs of parts at the same time** are made of one run of each part. -/
theorem runs_all_iff : Runs w (all (l.map f)) cs (some bs) ↔ OneRunEach w f l cs bs := by
  induction l generalizing cs bs with
  | nil => exact runs_pure_some_iff.trans oneRunEach_nil_iff.symm
  | cons i l ih =>
    rw [oneRunEach_cons_iff]
    constructor
    · intro h
      cases h with
      | both b rest hi hrest h =>
        cases h with
        | done => exact ⟨_, _, b, rest, add_zero _, rfl, hi, ih.1 hrest⟩
    · rintro ⟨cs₁, cs₂, b, rest, rfl, rfl, hi, hrest⟩
      rw [← add_zero (cs₁ + cs₂)]
      exact .both b rest hi (ih.2 hrest) .done

end OneRunEach

/-! ## Before and after -/

namespace Ends

variable {p : Activity α} {a : α}

theorem after (h : Ends w E p r a r') (h' : Relation.ReflTransGen E r' r'') :
    Ends w E p r a r'' := by
  induction h with
  | done a r => exact ends_done_iff.2 ⟨rfl, h'⟩
  | move h _ ih => exact .move h (ih h')
  | meanwhile h _ ih => exact .meanwhile h (ih h')

/-- The changes of an activity to which nobody else adds any. -/
theorem path (h : Ends w Alone p r a r') : ∃ cs, Runs w p cs (some a) ∧ Path r cs r' := by
  induction h with
  | done a r => exact ⟨0, .done, .refl r⟩
  | move h _ ih =>
    obtain ⟨cs, hruns, hpath⟩ := ih
    obtain ⟨ds, hds, hcontinues⟩ := h.continues
    refine ⟨ds + cs, hcontinues _ _ hruns, ?_⟩
    rcases hds with ⟨rfl, rfl⟩ | rfl
    · rwa [zero_add]
    · exact (Path.single _ _).trans hpath
  | meanwhile h => exact h.elim

end Ends

/-! ## Rely and guarantee -/

/-- All changes that an activity can make in some surroundings are of one kind. -/
def ChangesIn (w : Surroundings) (R : Resource → Resource → Prop) (p : Activity α) : Prop :=
  ∀ cs o, Runs w p cs o → ∀ c ∈ cs, R c.1 c.2

/-- A move makes a change of the kind or none, and so does what is left. -/
theorem Moves.changesIn {R : Resource → Resource → Prop} {p q : Activity α} (h : Moves w p r q r')
    (hp : ChangesIn w R p) : (r' = r ∨ R r r') ∧ ChangesIn w R q := by
  obtain ⟨ds, hds, hcontinues⟩ := h.continues
  constructor
  · refine hds.imp And.right fun he => ?_
    exact hp ds none hcontinues.stopped (r, r') (he ▸ Multiset.mem_singleton_self _)
  · exact fun cs o hruns c hc => hp _ _ (hcontinues cs o hruns) c (Multiset.mem_add.2 (.inr hc))

/-- **Two parts at the same time**: each of them comes to its end amid the changes of the other. -/
theorem ends_both {left : Activity β} {right : Activity γ} {next : β → γ → Activity α}
    {R S : Resource → Resource → Prop} {a : α} (hl : ChangesIn w R left) (hr : ChangesIn w S right)
    (h : Ends w E (both left right next) r a r'') :
    ∃ b c r', Ends w (fun r r' => E r r' ∨ S r r') left r b r' ∧
      Ends w (fun r r' => E r r' ∨ R r r') right r c r' ∧ Ends w E (next b c) r' a r'' := by
  generalize hp : both left right next = p at h
  induction h generalizing left right with
  | done => cases hp
  | move h hrest ih =>
    subst hp
    cases h with
    | left h =>
      obtain ⟨hchange, hl'⟩ := h.changesIn hl
      obtain ⟨b, c, r', hleft, hright, hnext⟩ := ih hl' hr rfl
      refine ⟨b, c, r', .move h hleft, ?_, hnext⟩
      rcases hchange with rfl | hchange
      · exact hright
      · exact .meanwhile (.inr hchange) hright
    | right h =>
      obtain ⟨hchange, hr'⟩ := h.changesIn hr
      obtain ⟨b, c, r', hleft, hright, hnext⟩ := ih hl hr' rfl
      refine ⟨b, c, r', ?_, .move h hright, hnext⟩
      rcases hchange with rfl | hchange
      · exact hleft
      · exact .meanwhile (.inr hchange) hleft
    | bothEnd b c => exact ⟨b, c, _, .done b _, .done c _, hrest⟩
  | meanwhile h _ ih =>
    obtain ⟨b, c, r', hleft, hright, hnext⟩ := ih hl hr hp
    exact ⟨b, c, r', .meanwhile (.inl h) hleft, .meanwhile (.inl h) hright, hnext⟩

section Lists

variable {f : ι → Activity β} {A G : ι → Resource → Resource → Prop} {l : List ι} {bs : List β}

/-- Each part puts up with the changes of the others. -/
def PutUp (A G : ι → Resource → Resource → Prop) (l : List ι) : Prop :=
  l.Pairwise fun i j => (∀ r r', G j r r' → A i r r') ∧ ∀ r r', G i r r' → A j r r'

/-- **Parts at the same time**: each of them comes to its end amid changes that it puts up with. -/
theorem ends_all (hf : ∀ i, ChangesOnly (G i) (f i)) (hE : ∀ i ∈ l, ∀ r r', E r r' → A i r r')
    (hl : PutUp A G l) (h : Ends w E (all (l.map f)) r bs r') :
    List.Forall₂ (fun i b => Ends w (A i) (f i) r b r') l bs := by
  induction l generalizing E r r' bs with
  | nil =>
    obtain ⟨rfl, -⟩ := ends_done_iff.1 h
    exact .nil
  | cons i l ih =>
    obtain ⟨hi, hrest⟩ := List.pairwise_cons.1 hl
    have hothers : ChangesOnly (fun r r' => ∃ j ∈ l, G j r r') (all (l.map f)) := by
      refine ChangesOnly.all fun p hp => ?_
      obtain ⟨j, hj, rfl⟩ := List.mem_map.1 hp
      exact (hf j).mono fun r r' hG => ⟨j, hj, hG⟩
    obtain ⟨b, bs', r₁, hfirst, hlast, hdone⟩ :=
      ends_both (R := G i) (S := fun r r' => ∃ j ∈ l, G j r r') (hf i w) (hothers w) h
    obtain ⟨rfl, hafter⟩ := ends_done_iff.1 hdone
    refine .cons ?_ (ih ?_ hrest (hlast.after (Relation.ReflTransGen.mono (fun _ _ => .inl) _ _
      hafter)))
    · refine (hfirst.after (Relation.ReflTransGen.mono (fun _ _ => .inl) _ _ hafter)).mono ?_
      rintro s s' (hs | ⟨j, hj, hs⟩)
      · exact hE i List.mem_cons_self s s' hs
      · exact (hi j hj).1 s s' hs
    · rintro j hj s s' (hs | hs)
      · exact hE j (List.mem_cons_of_mem _ hj) s s' hs
      · exact (hi j hj).2 s s' hs

/-- **Parts one after the other**: each of them comes to its end amid changes that it puts up with,
those before it and those after it. -/
theorem ends_mapM (hf : ∀ i, ChangesOnly (G i) (f i)) (hE : ∀ i ∈ l, ∀ r r', E r r' → A i r r')
    (hl : PutUp A G l) (h : Ends w E (l.mapM f) r bs r') :
    List.Forall₂ (fun i b => Ends w (A i) (f i) r b r') l bs := by
  induction l generalizing E r r' bs with
  | nil =>
    rw [List.mapM_nil] at h
    obtain ⟨rfl, -⟩ := ends_pure_iff.1 h
    exact .nil
  | cons i l ih =>
    obtain ⟨hi, hrest⟩ := List.pairwise_cons.1 hl
    rw [List.mapM_cons] at h
    obtain ⟨b, r₁, hfirst, h⟩ := ends_bind_iff.1 h
    obtain ⟨bs', r₂, hlast, h⟩ := ends_bind_iff.1 h
    obtain ⟨rfl, hafter⟩ := ends_pure_iff.1 h
    have hothers : ChangesOnly (fun r r' => ∃ j ∈ l, G j r r') (l.mapM f) :=
      ChangesOnly.mapM fun j hj => (hf j).mono fun r r' hG => ⟨j, hj, hG⟩
    have hlast' := hlast.after hafter
    refine .cons ?_ (ih ?_ hrest ((hlast'.mono fun _ _ hs => Or.inr hs).before
      (hfirst.reflTransGen (hf i))))
    · refine Ends.after (hfirst.mono fun s s' => hE i List.mem_cons_self s s')
        (Relation.ReflTransGen.mono ?_ _ _ (hlast'.reflTransGen hothers))
      rintro s s' (⟨j, hj, hs⟩ | hs)
      · exact (hi j hj).1 s s' hs
      · exact hE i List.mem_cons_self s s' hs
    · rintro j hj s s' (hs | hs)
      · exact (hi j hj).2 s s' hs
      · exact hE j (List.mem_cons_of_mem _ hj) s s' hs

end Lists

end HardwareWatch.Activity
