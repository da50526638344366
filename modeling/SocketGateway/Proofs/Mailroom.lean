import SocketGateway.Mailroom

/-!
# Mailboxes under the operations of a mailroom

Each operation is described by what it does to every single mailbox: whether somebody still takes
frames out of it, and the frames in it. `Grows` is what most operations have in common: nobody
hangs up, and frames are only put behind those that were there.
-/

namespace SocketGateway.Mailroom

open SocketGateway.Wire (Frame)

variable {m m' m'' : Mailroom} {i j : MailboxId} {f : Frame}

/-! ## Single operations -/

theorem lt_next_of_isReceiving (h : m.isReceiving i = true) : i < m.next := by
  unfold isReceiving at h
  split at h
  · rename_i box hbox
    exact (List.getElem?_eq_some_iff.mp hbox).1
  · cases h

theorem isReceiving_create :
    m.create.isReceiving i = if i = m.next then true else m.isReceiving i := by
  unfold isReceiving create next
  by_cases h : i = m.boxes.length
  · simp [h]
  · rcases Nat.lt_or_gt_of_ne h with hlt | hgt
    · simp [h, List.getElem?_append_left hlt]
    · have hout : ∀ box, (m.boxes ++ [box]).length ≤ i := by
        intro box
        rw [List.length_append]
        exact hgt
      rw [List.getElem?_eq_none (hout _), List.getElem?_eq_none (Nat.le_of_lt hgt), if_neg h]

@[simp] theorem frames_create : m.create.frames i = m.frames i := by
  unfold frames create
  rcases Nat.lt_trichotomy i m.boxes.length with hlt | heq | hgt
  · simp [List.getElem?_append_left hlt]
  · simp [heq]
  · have hout : ∀ box, (m.boxes ++ [box]).length ≤ i := by
      intro box
      rw [List.length_append]
      exact hgt
    rw [List.getElem?_eq_none (hout _), List.getElem?_eq_none (Nat.le_of_lt hgt)]

/-- The next mailbox is not set up, so there is nothing in it. -/
@[simp] theorem frames_next : m.frames m.next = [] := by simp [frames, next]

theorem isReceiving_hangUp :
    (m.hangUp j).isReceiving i = if j = i then false else m.isReceiving i := by
  unfold isReceiving hangUp
  by_cases h : j = i
  · subst h
    cases hbox : m.boxes[j]? <;> simp [hbox]
  · simp [h]

theorem frames_hangUp_of_ne (h : j ≠ i) : (m.hangUp j).frames i = m.frames i := by
  simp [frames, hangUp, h]

/-- What nobody has taken out of a mailbox is lost with it. -/
@[simp] theorem frames_hangUp_self : (m.hangUp j).frames j = [] := by
  unfold frames hangUp
  cases hbox : m.boxes[j]? <;> simp [hbox]

@[simp] theorem isReceiving_post : (m.post j f).2.isReceiving i = m.isReceiving i := by
  unfold post
  split
  · by_cases h : j = i
    · subst h
      cases hbox : m.boxes[j]? <;> simp [isReceiving, hbox]
    · simp [isReceiving, h]
  · rfl

theorem frames_post :
    (m.post j f).2.frames i =
      if j = i ∧ m.isReceiving j = true then m.frames i ++ [f] else m.frames i := by
  unfold post
  by_cases hr : m.isReceiving j = true
  · by_cases h : j = i
    · subst h
      have hlt : j < m.boxes.length := lt_next_of_isReceiving hr
      simp [frames, hr, List.getElem?_eq_getElem hlt]
    · simp [frames, hr, h]
  · simp [hr]

theorem take_eq_some {rooms : Mailroom} (h : m.take i = (some f, rooms)) :
    ∃ rest, m.frames i = f :: rest ∧
      rooms = ⟨m.boxes.modify i fun b => { b with frames := rest }⟩ := by
  unfold take at h
  split at h
  · cases h
  · rename_i g rest hframes
    cases h
    exact ⟨rest, hframes, rfl⟩

/-- Taking the oldest frame out of a mailbox leaves the later ones there, and every other mailbox
as it was. -/
theorem take_spec {rooms : Mailroom} (h : m.take i = (some f, rooms)) :
    m.frames i = f :: rooms.frames i ∧ (∀ j, j ≠ i → rooms.frames j = m.frames j) ∧
      ∀ j, rooms.isReceiving j = m.isReceiving j := by
  obtain ⟨rest, hframes, rfl⟩ := take_eq_some h
  have hbox : ∃ box, m.boxes[i]? = some box := by
    unfold frames at hframes
    split at hframes
    · exact ⟨_, ‹_›⟩
    · cases hframes
  obtain ⟨box, hbox⟩ := hbox
  refine ⟨?_, fun j hj => ?_, fun j => ?_⟩
  · rw [hframes]
    simp [frames, hbox]
  · simp [frames, Ne.symm hj]
  · by_cases hj : i = j
    · subst hj
      simp [isReceiving, hbox]
    · simp [isReceiving, hj]

/-! ## Numbering -/

@[simp] theorem next_create : m.create.next = m.next + 1 := by simp [create, next]

@[simp] theorem next_hangUp : (m.hangUp j).next = m.next := by simp [hangUp, next]

@[simp] theorem next_post : (m.post j f).2.next = m.next := by
  unfold post
  split
  · simp [next]
  · rfl

theorem next_take {rooms : Mailroom} (h : m.take i = (some f, rooms)) : rooms.next = m.next := by
  obtain ⟨rest, -, rfl⟩ := take_eq_some h
  simp [next]

/-! ## Growing -/

/-- Nobody hangs up a mailbox, and what is in it stays in front of what is put in. -/
structure Grows (m m' : Mailroom) : Prop where
  receiving : ∀ i, m.isReceiving i = true → m'.isReceiving i = true
  kept : ∀ i, m.frames i <+: m'.frames i

theorem Grows.refl (m : Mailroom) : m.Grows m := ⟨fun _ h => h, fun _ => List.prefix_rfl⟩

theorem Grows.trans (h : m.Grows m') (h' : m'.Grows m'') : m.Grows m'' :=
  ⟨fun i hi => h'.receiving i (h.receiving i hi), fun i => (h.kept i).trans (h'.kept i)⟩

theorem Grows.mem (h : m.Grows m') (hf : f ∈ m.frames i) : f ∈ m'.frames i :=
  (h.kept i).subset hf

theorem grows_create : m.Grows m.create where
  receiving i h := by
    rw [isReceiving_create, h]
    split <;> rfl
  kept _ := by simp

theorem grows_post : m.Grows (m.post j f).2 where
  receiving i h := by rw [isReceiving_post, h]
  kept i := by
    rw [frames_post]
    split
    · exact List.prefix_append _ _
    · exact List.prefix_rfl

/-- A frame that is put into a mailbox that somebody receives from is in it. -/
theorem mem_frames_post (h : m.isReceiving i = true) : f ∈ (m.post i f).2.frames i := by
  rw [frames_post, if_pos ⟨rfl, h⟩]
  exact List.mem_append_right _ (List.mem_singleton_self f)

end SocketGateway.Mailroom
