import Mathlib.Data.List.Basic

/-!
# Frames in a stream

A stream is cut into frames by the length that stands in the header of each.  How it is
cut does not depend on how much of it has arrived: what has been cut from a part of the
stream is cut in the same way from all of it.
-/

namespace DirectPlayLite

/-- How long a frame is can be told from its header. -/
structure Framing (β : Type) where
  header : Nat
  size : List β -> Nat
  size_append : forall xs ys, header ≤ xs.length -> size (xs ++ ys) = size xs

namespace Framing

variable {β : Type} (F : Framing β)

def IsFrame (xs : List β) : Prop := F.header ≤ xs.length ∧ F.size xs = xs.length

/-- The header has arrived, and so has everything it announces. -/
def BeginsWithFrame (xs : List β) : Prop := F.header ≤ xs.length ∧ F.size xs ≤ xs.length

instance (xs : List β) : Decidable (F.IsFrame xs) :=
  inferInstanceAs (Decidable (_ ∧ _))

instance (xs : List β) : Decidable (F.BeginsWithFrame xs) :=
  inferInstanceAs (Decidable (_ ∧ _))

structure Cuts (stream : List β) (frames : List (List β)) (tail : List β) : Prop where
  stream_eq : stream = frames.flatten ++ tail
  are_frames : forall f, f ∈ frames -> F.IsFrame f
  incomplete : ¬ F.BeginsWithFrame tail

variable {F} {xs ys tail : List β} {frames frames' : List (List β)}

theorem size_of_front (hheader : F.header ≤ xs.length) (h : xs <+: ys) :
    F.size ys = F.size xs := by
  rcases h with ⟨more, rfl⟩
  exact F.size_append xs more hheader

theorem IsFrame.begins (hframe : F.IsFrame xs) (h : xs <+: ys) : F.BeginsWithFrame ys := by
  refine ⟨Nat.le_trans hframe.1 h.length_le, ?_⟩
  rw [size_of_front hframe.1 h, hframe.2]
  exact h.length_le

theorem BeginsWithFrame.isFrame_take (h : F.BeginsWithFrame xs)
    (hheader : F.header ≤ F.size xs) : F.IsFrame (xs.take (F.size xs)) := by
  have hlength : (xs.take (F.size xs)).length = F.size xs :=
    List.length_take_of_le h.2
  have hlong : F.header ≤ (xs.take (F.size xs)).length := by rwa [hlength]
  refine ⟨hlong, ?_⟩
  rw [hlength, ← size_of_front hlong (List.take_prefix _ xs)]

theorem IsFrame.eq_of_front {f g : List β} (hf : F.IsFrame f) (hg : F.IsFrame g)
    (hfs : f <+: xs) (hgs : g <+: xs) : f = g := by
  have hlength : f.length = g.length := by
    rw [← hf.2, ← hg.2, ← size_of_front hf.1 hfs, ← size_of_front hg.1 hgs]
  exact (List.prefix_of_prefix_length_le hfs hgs (Nat.le_of_eq hlength)).eq_of_length hlength

theorem cuts_flatten (hheader : 0 < F.header) (h : forall f, f ∈ frames -> F.IsFrame f) :
    F.Cuts frames.flatten frames [] where
  stream_eq := (List.append_nil _).symm
  are_frames := h
  incomplete := fun hbegins => Nat.not_le.mpr hheader hbegins.1

theorem Cuts.prefix_of_flatten (h : F.Cuts xs frames tail)
    (hframes : forall f, f ∈ frames' -> F.IsFrame f) (hfront : frames'.flatten <+: xs) :
    frames' <+: frames := by
  rcases h with ⟨rfl, hare, hincomplete⟩
  induction frames' generalizing frames with
  | nil => exact List.nil_prefix
  | cons f more ih =>
      have hf := hframes f List.mem_cons_self
      have hbegins : f <+: frames.flatten ++ tail :=
        (List.prefix_append f more.flatten).trans (by simpa using hfront)
      cases frames with
      | nil => exact absurd (hf.begins (by simpa using hbegins)) hincomplete
      | cons g others =>
          have hg := hare g List.mem_cons_self
          have hsame : f = g := by
            refine hf.eq_of_front hg hbegins ?_
            rw [List.flatten_cons, List.append_assoc]
            exact List.prefix_append g _
          subst hsame
          refine List.prefix_cons_inj f |>.mpr (ih ?_ ?_ ?_)
          · exact fun other hother => hframes other (List.mem_cons_of_mem f hother)
          · exact fun other hother => hare other (List.mem_cons_of_mem f hother)
          · simpa using hfront

theorem Cuts.unique {tail' : List β} (h : F.Cuts xs frames tail)
    (h' : F.Cuts xs frames' tail') : frames' = frames ∧ tail' = tail := by
  have hle : frames' <+: frames := by
    refine h.prefix_of_flatten h'.are_frames ?_
    rw [h'.stream_eq]
    exact List.prefix_append _ _
  have hge : frames <+: frames' := by
    refine h'.prefix_of_flatten h.are_frames ?_
    rw [h.stream_eq]
    exact List.prefix_append _ _
  have hsame : frames' = frames :=
    hle.eq_of_length (Nat.le_antisymm hle.length_le hge.length_le)
  subst hsame
  have hstreams : frames'.flatten ++ tail' = frames'.flatten ++ tail := by
    rw [← h'.stream_eq, h.stream_eq]
  exact ⟨rfl, List.append_cancel_left hstreams⟩

end Framing

end DirectPlayLite
