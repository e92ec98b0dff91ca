import GenKill.Proofs.Flow.Run
import Mathlib.Data.List.Sort

namespace GenKill

variable {α β : Type} [Ord α] [Std.TransOrd α] [Std.LawfulEqOrd α]
variable [Ord β] [Std.TransOrd β] [Std.LawfulEqOrd β]

namespace TokenSet

def KeepsOrder (φ : α → β) : Prop := ∀ a b, compare (φ a) (φ b) = compare a b

omit [Std.TransOrd α] [Std.TransOrd β] in
lemma KeepsOrder.injective {φ : α → β} (hφ : KeepsOrder φ) : Function.Injective φ := by
  intro a b h
  apply Std.LawfulEqOrd.eq_of_compare
  rw [← hφ, h, Std.ReflOrd.compare_self]

def image (φ : α → β) (s : TokenSet α) : TokenSet β := ofList (s.toList.map φ)

variable {φ : α → β} {s t : TokenSet α}

omit [Std.LawfulEqOrd α] in
lemma mem_image_iff {e : β} : e ∈ image φ s ↔ e ∈ s.toList.map φ := by
  classical exact mem_ofList

lemma mem_image {e : β} : e ∈ image φ s ↔ ∃ a ∈ s, φ a = e := by
  simp only [mem_image_iff, List.mem_map, Std.ExtTreeSet.mem_toList]

lemma image_ofList (tokens : List α) : image φ (ofList tokens) = ofList (tokens.map φ) := by
  classical
  apply Std.ExtTreeSet.ext_mem
  intro e
  simp only [mem_image, mem_ofList, List.mem_map]

lemma image_empty : image φ (∅ : TokenSet α) = ∅ := by
  apply Std.ExtTreeSet.ext_mem
  intro e
  simp [mem_image]

lemma image_union : image φ (s ∪ t) = image φ s ∪ image φ t := by
  apply Std.ExtTreeSet.ext_mem
  intro e
  simp only [mem_image, Std.ExtTreeSet.mem_union_iff, or_and_right, exists_or]

variable (hφ : KeepsOrder φ)

include hφ

lemma apply_mem_image {a : α} : φ a ∈ image φ s ↔ a ∈ s := by
  rw [mem_image]
  constructor
  · rintro ⟨b, hb, heq⟩
    rwa [← hφ.injective heq]
  · exact fun ha => ⟨a, ha, rfl⟩

lemma image_inter : image φ (s ∩ t) = image φ s ∩ image φ t := by
  apply Std.ExtTreeSet.ext_mem
  intro e
  simp only [mem_image, Std.ExtTreeSet.mem_inter_iff]
  constructor
  · rintro ⟨a, ⟨hs, ht⟩, rfl⟩
    exact ⟨⟨a, hs, rfl⟩, a, ht, rfl⟩
  · rintro ⟨⟨a, hs, rfl⟩, b, ht, heq⟩
    rw [hφ.injective heq] at ht
    exact ⟨a, ⟨hs, ht⟩, rfl⟩

lemma image_sdiff : image φ (s \ t) = image φ s \ image φ t := by
  apply Std.ExtTreeSet.ext_mem
  intro e
  simp only [Std.ExtTreeSet.mem_diff_iff]
  constructor
  · intro he
    obtain ⟨a, ha, rfl⟩ := mem_image.mp he
    simpa only [apply_mem_image hφ, Std.ExtTreeSet.mem_diff_iff] using ha
  · rintro ⟨hs, ht⟩
    obtain ⟨a, ha, rfl⟩ := mem_image.mp hs
    rw [apply_mem_image hφ] at ht ⊢
    exact Std.ExtTreeSet.mem_diff_iff.mpr ⟨ha, ht⟩

lemma image_injective : Function.Injective (image φ) := by
  intro s t h
  apply Std.ExtTreeSet.ext_mem
  intro a
  rw [← apply_mem_image hφ, h, apply_mem_image hφ]

omit [Std.LawfulEqOrd α] in
lemma toList_image (s : TokenSet α) : (image φ s).toList = s.toList.map φ := by
  have hsorted : (s.toList.map φ).Pairwise fun a b => compare a b = .lt := by
    rw [List.pairwise_map]
    simp only [hφ _ _]
    exact Std.ExtTreeSet.ordered_toList
  have hnodup : ∀ l : List β, l.Pairwise (fun a b => compare a b = .lt) → l.Nodup := by
    intro l hl
    refine hl.imp fun {a b} hab heq => ?_
    rw [heq, Std.ReflOrd.compare_self] at hab
    cases hab
  refine List.Perm.eq_of_pairwise ?_ Std.ExtTreeSet.ordered_toList hsorted ?_
  · exact fun a b _ _ hab hba => absurd hba (Std.OrientedCmp.not_lt_of_lt hab)
  · rw [List.perm_ext_iff_of_nodup (hnodup _ Std.ExtTreeSet.ordered_toList) (hnodup _ hsorted)]
    intro e
    rw [Std.ExtTreeSet.mem_toList, mem_image_iff]

end TokenSet

namespace Flow

open TokenSet

variable {φ : α → β}

def Sets.image (φ : α → β) (s : Sets α) : Sets β where
  gen := TokenSet.image φ s.gen
  kill := TokenSet.image φ s.kill
  before := TokenSet.image φ s.before
  after := TokenSet.image φ s.after

lemma Sets.image_injective (hφ : KeepsOrder φ) : Function.Injective (Sets.image φ) := by
  intro s t h
  obtain ⟨hg, hk, hb, ha⟩ := Sets.mk.inj h
  exact Sets.ext (TokenSet.image_injective hφ hg) (TokenSet.image_injective hφ hk)
    (TokenSet.image_injective hφ hb) (TokenSet.image_injective hφ ha)

lemma Sets.image_empty : Sets.image φ ({} : Sets α) = {} := by
  simp only [image, TokenSet.image_empty]

namespace Direction

variable (d : Direction) (s : Sets α)

omit [Std.LawfulEqOrd α] [Std.TransOrd β] [Std.LawfulEqOrd β]

lemma taken_image : d.taken (s.image φ) = TokenSet.image φ (d.taken s) := by
  cases d <;> rfl

lemma passed_image : d.passed (s.image φ) = TokenSet.image φ (d.passed s) := by
  cases d <;> rfl

lemma put_image (x y : TokenSet α) :
    d.put (s.image φ) (TokenSet.image φ x) (TokenSet.image φ y) = (d.put s x y).image φ := by
  cases d <;> rfl

end Direction

lemma transfer_image (hφ : KeepsOrder φ) (s : Sets α) (x : TokenSet α) :
    transfer (s.image φ) (TokenSet.image φ x) = TokenSet.image φ (transfer s x) := by
  simp only [transfer, Sets.image, image_union, image_sdiff hφ]

lemma Meet.combine_image (hφ : KeepsOrder φ) (m : Meet) (sets : List (TokenSet α))
    (identity : TokenSet α) :
    m.combine (sets.map (TokenSet.image φ)) (TokenSet.image φ identity) =
      TokenSet.image φ (m.combine sets identity) := by
  cases m with
  | union =>
    simp only [combine, List.foldl_map]
    rw [← TokenSet.image_empty (φ := φ)]
    exact List.foldl_hom (TokenSet.image φ) fun _ _ => image_union.symm
  | intersection =>
    cases sets with
    | nil => rfl
    | cons s rest =>
      simp only [combine, List.map_cons, List.foldl_map]
      exact List.foldl_hom (TokenSet.image φ) fun _ _ => (image_inter hφ).symm

def Store.Image (φ : α → β) (s : Store α) (t : Store β) : Prop := ∀ n, t.sets n = (s.sets n).image φ

namespace Problem

def image (φ : α → β) (p : Problem α) : Problem β where
  direction := p.direction
  meet := p.meet
  boundary := TokenSet.image φ p.boundary
  initial := p.initial.map (TokenSet.image φ)

variable {p : Problem α} {g : Graph} {s s' : Store α} {t t' : Store β} (hφ : KeepsOrder φ)

include hφ

lemma takenAt_image (h : s.Image φ t) (n : NodeId) :
    (p.image φ).takenAt g t n = TokenSet.image φ (p.takenAt g s n) := by
  have hsets : ((p.direction.sources g n).map fun m => p.direction.passed (t.sets m)) =
      ((p.direction.sources g n).map fun m => p.direction.passed (s.sets m)).map
        (TokenSet.image φ) := by
    simp only [List.map_map, h _, Direction.passed_image]
    rfl
  change ite (p.direction.boundaryNode? g = some n) _
    (p.meet.combine ((p.direction.sources g n).map fun m => p.direction.passed (t.sets m))
      (p.direction.taken (t.sets n))) = _
  rw [hsets, h n, Direction.taken_image, Meet.combine_image hφ, takenAt]
  split <;> rfl

lemma visit_image (h : s.Image φ t) (n : NodeId) :
    (p.visit g s n).Image φ ((p.image φ).visit g t n) := by
  intro m
  rw [sets_visit, sets_visit]
  split
  case isTrue =>
    rw [takenAt_image hφ h, h n, transfer_image hφ]
    exact p.direction.put_image _ _ _
  case isFalse => exact h m

lemma pass_image (h : s.Image φ t) : (p.pass g s).Image φ ((p.image φ).pass g t) :=
  List.foldl_rel h fun n _ _ _ h => visit_image hφ h n

lemma settled_image (h : s.Image φ t) (h' : s'.Image φ t') :
    settled g t t' = settled g s s' := by
  simp only [settled, h _, h' _, (Sets.image_injective hφ).eq_iff]

lemma simulates_image (g : Graph) : Simulates p g (p.image φ) g (Store.Image φ) where
  pass _ _ h := pass_image hφ h
  settled _ _ _ _ h h' := settled_image hφ h h'

end Problem

end Flow

end GenKill
