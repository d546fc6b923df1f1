import MessageTunnel.Proofs.Trace.Writer
/-!
What the operations on a tree of files change. Making directories only adds directories where nothing
was; opening a file and writing to it change nothing but the node at one place. None of them makes a
link, so a path leads to a place of its own name unless there was a link of that name before.
-/
set_option autoImplicit false

namespace MessageTunnel.FileSystem

variable {fs fs' fs'' : FileSystem} {l l' : Location} {h h' : Handle} {path name : String}

theorem lookup_replace_other {α : Type} (n : α) (nodes : List (Location × α)) (other : l' ≠ l) :
    (nodes.map fun e => if e.1 = l then (l, n) else e).lookup l' = nodes.lookup l' := by
  induction nodes with
  | nil => rfl
  | cons e rest ih =>
    obtain ⟨at_, n'⟩ := e
    by_cases same : at_ = l
    · have aside : (l' == l) = false := by simpa using other
      simp [same, List.lookup_cons, aside, ih]
    · simp [same, List.lookup_cons, ih]

theorem node?_put_other (fs : FileSystem) (n : Node) (other : l' ≠ l) :
    (fs.put l n).node? l' = fs.node? l' := by
  unfold node? put
  dsimp only
  split
  · rfl
  · split
    · exact lookup_replace_other n fs.nodes other
    · have aside : (l' == l) = false := by simpa using other
      simp [List.lookup_append, List.lookup_cons, aside]

def MakesRoom (fs fs' : FileSystem) : Prop :=
  ∀ l, fs'.node? l = fs.node? l ∨ fs.node? l = none ∧ fs'.node? l = some .directory

theorem MakesRoom.refl (fs : FileSystem) : fs.MakesRoom fs := fun _ => .inl rfl

theorem MakesRoom.trans (first : fs.MakesRoom fs') (then_ : fs'.MakesRoom fs'') :
    fs.MakesRoom fs'' := by
  intro l
  obtain same | ⟨free, made⟩ := then_ l
  · rw [same]
    exact first l
  · obtain same | ⟨-, made'⟩ := first l
    · exact .inr ⟨same ▸ free, made⟩
    · simp [made'] at free

theorem makeDirectory_makesRoom (made : fs.makeDirectory path = .ok fs') : fs.MakesRoom fs' := by
  have added {above : Location} (new : (fs.node? above).isSome = false) :
      fs.MakesRoom (fs.put above .directory) := by
    intro l
    by_cases here : l = above
    · subst here
      refine .inr ⟨by simpa using new, ?_⟩
      rw [node?_put]
      split <;> rfl
    · exact .inl (node?_put_other fs _ here)
  unfold makeDirectory at made
  cases plain : checkPath path with
  | error e => simp [plain, bind, Except.bind] at made
  | ok =>
    simp only [plain, bind, Except.bind] at made
    simp only [throw, throwThe, MonadExceptOf.throw, pure, Except.pure] at made
    split at made
    · simp at made
    · split at made
      · simp at made
      · -- One guard after the other; the last one says that the place is free.
        split at made
        · simp at made
        split at made
        · simp at made
        split at made
        · simp at made
        split at made
        · simp at made
        rename_i free
        obtain rfl := Except.ok.inj made
        exact added (by simpa using free)
      · simp at made

theorem makeDirectories_makesRoom (fs : FileSystem) (depth : Nat) (path : String) :
    fs.MakesRoom (fs.makeDirectories depth path).1 := by
  induction depth generalizing path with
  | zero =>
    unfold makeDirectories
    split
    · exact .refl fs
    · split
      · rename_i made
        exact makeDirectory_makesRoom made
      · rename_i impossible
        simp at impossible
      · exact .refl fs
  | succ depth ih =>
    unfold makeDirectories
    split
    · exact .refl fs
    · split
      · rename_i made
        exact makeDirectory_makesRoom made
      · rename_i depth' _ same
        obtain rfl : depth = depth' := by simpa using same
        split
        · exact .refl fs
        · rename_i above _
          have before := ih above
          split
          · rename_i fs₁ e failed
            rwa [failed] at before
          · rename_i fs₁ ready
            rw [ready] at before
            split
            · rename_i made
              exact before.trans (makeDirectory_makesRoom made)
            · exact before
      · exact .refl fs

theorem ensureDirectory_makesRoom (fs : FileSystem) (path : String) :
    fs.MakesRoom (fs.ensureDirectory path).1 := by
  unfold ensureDirectory
  split
  · exact .refl fs
  · exact makeDirectories_makesRoom fs path.length path

/-- Nothing has changed but what is at one place, and no link was put there. -/
structure OnlyAt (l : Location) (fs fs' : FileSystem) : Prop where
  others : ∀ l', l' ≠ l → fs'.node? l' = fs.node? l'
  links : ∀ n, n.isLink = true → fs'.node? l = some n → fs.node? l = some n

theorem OnlyAt.refl (l : Location) (fs : FileSystem) : OnlyAt l fs fs := ⟨fun _ _ => rfl, fun _ _ => id⟩

theorem OnlyAt.trans (first : OnlyAt l fs fs') (then_ : OnlyAt l fs' fs'') : OnlyAt l fs fs'' where
  others := fun l' other => (then_.others l' other).trans (first.others l' other)
  links := fun n link there => first.links n link (then_.links n link there)

theorem onlyAt_put (fs : FileSystem) (l : Location) (content : Bytes) (room : Option Nat) :
    OnlyAt l fs (fs.put l (.file content room)) where
  others := fun _ other => node?_put_other fs _ other
  links := by
    intro n link there
    rw [node?_put] at there
    split at there <;> obtain rfl := Option.some.inj there <;> simp [Node.isLink] at link

/-- A file is opened where its path leads; it is made empty there, unless it is no plain file. -/
theorem create_cases (opened : fs.create path = .ok (h, fs')) :
    ∃ target l, fs.resolve path = .ok target ∧ (target = .free l ∨ target = .node l) ∧ h = ⟨l, 0⟩ ∧
      (fs' = fs ∨ ∃ room, fs' = fs.put l (.file [] room)) := by
  unfold create at opened
  cases target : fs.resolve path with
  | error e => simp [target, bind, Except.bind] at opened
  | ok t =>
    simp only [target, bind, Except.bind, pure, Except.pure] at opened
    cases t with
    | free l =>
      obtain ⟨rfl, rfl⟩ := Prod.mk.inj (Except.ok.inj opened)
      exact ⟨_, l, rfl, .inl rfl, rfl, .inr ⟨none, rfl⟩⟩
    | node l =>
      refine ⟨_, l, rfl, .inr rfl, ?_⟩
      dsimp only at opened
      split at opened
      · simp [throw, throwThe, MonadExceptOf.throw] at opened
      · obtain ⟨rfl, rfl⟩ := Prod.mk.inj (Except.ok.inj opened)
        exact ⟨rfl, .inr ⟨_, rfl⟩⟩
      · obtain ⟨rfl, rfl⟩ := Prod.mk.inj (Except.ok.inj opened)
        exact ⟨rfl, .inl rfl⟩

theorem create_onlyAt (opened : fs.create path = .ok (h, fs')) : OnlyAt h.location fs fs' := by
  obtain ⟨target, l, -, -, rfl, rfl | ⟨room, rfl⟩⟩ := create_cases opened
  · exact .refl l fs'
  · exact onlyAt_put fs l [] room

theorem write_onlyAt (fs : FileSystem) (h : Handle) (bytes : Bytes) :
    (fs.write h bytes).2.1.location = h.location ∧
      OnlyAt h.location fs (fs.write h bytes).2.2 := by
  unfold write
  split
  · exact ⟨rfl, onlyAt_put fs h.location _ _⟩
  · exact ⟨rfl, .refl h.location fs⟩

/-- There is a symbolic link of this name, or a file has it as a further name. -/
def HasLink (fs : FileSystem) (name : String) : Prop :=
  ∃ l n, fs.node? (l ++ [name]) = some n ∧ n.isLink = true

theorem MakesRoom.hasLink (room : fs.MakesRoom fs') (link : fs'.HasLink name) : fs.HasLink name := by
  obtain ⟨l, n, there, isLink⟩ := link
  obtain same | ⟨-, made⟩ := room (l ++ [name])
  · exact ⟨l, n, same ▸ there, isLink⟩
  · obtain rfl := Option.some.inj (made.symm.trans there)
    simp [Node.isLink] at isLink

theorem OnlyAt.hasLink (only : OnlyAt l fs fs') (link : fs'.HasLink name) : fs.HasLink name := by
  obtain ⟨l', n, there, isLink⟩ := link
  refine ⟨l', n, ?_, isLink⟩
  by_cases here : l' ++ [name] = l
  · subst here
    exact only.links n isLink there
  · rw [← only.others _ here, there]

def IsPlain (name : String) : Prop := name ≠ "" ∧ name ≠ "." ∧ name ≠ ".."

/-- Unless there is a link of the last name, a path leads to a place of that name. -/
theorem walk_last (plain : IsPlain name) (unlinked : ¬ fs.HasLink name) {links : Nat}
    {at_ : Location} {names : List String} {target : Target}
    (leads : fs.walk links at_ (names ++ [name]) = .ok target) :
    ∃ above, target = .node (above ++ [name]) ∨ target = .free (above ++ [name]) := by
  generalize all_eq : names ++ [name] = all at leads
  -- The induction follows the walk; the last name stays last, whatever links put before it.
  fun_induction walk fs links at_ all generalizing names with
  | case1 => simp at all_eq
  | case2 | case5 | case7 | case8 | case11 => simp at leads
  | case3 links at_ first rest inside idle ih =>
    cases names with
    | nil =>
      obtain rfl : name = first := by simpa using (List.cons.inj all_eq).1
      exact absurd idle (not_or.2 ⟨plain.1, plain.2.1⟩)
    | cons _ names => exact ih (List.cons.inj all_eq).2 leads
  | case4 links at_ rest inside named ih =>
    cases names with
    | nil => exact absurd (List.cons.inj all_eq).1 plain.2.2
    | cons _ names => exact ih (List.cons.inj all_eq).2 leads
  | case6 links at_ first rest inside named down short free idle =>
    obtain rfl := Except.ok.inj leads
    cases names with
    | nil =>
      obtain rfl : name = first := by simpa using (List.cons.inj all_eq).1
      exact ⟨at_, .inr rfl⟩
    | cons _ names =>
      obtain rfl := (List.cons.inj all_eq).2
      simp [plain.1] at idle
  | case9 at_ first rest inside named down short target' there links ih =>
    cases names with
    | nil =>
      obtain rfl : name = first := by simpa using (List.cons.inj all_eq).1
      exact absurd ⟨at_, _, there, rfl⟩ unlinked
    | cons _ names =>
      obtain rfl := (List.cons.inj all_eq).2
      exact ih (List.append_assoc ..) leads
  | case10 links at_ first rest inside named down short place there hasFile ih =>
    cases names with
    | nil =>
      obtain rfl : name = first := by simpa using (List.cons.inj all_eq).1
      exact absurd ⟨at_, _, there, rfl⟩ unlinked
    | cons _ names => exact ih (List.cons.inj all_eq).2 leads
  | case12 links at_ first rest inside named down short node symbolic hard there ih =>
    cases names with
    | nil =>
      obtain ⟨same, rfl⟩ : name = first ∧ rest = [] := by simpa using all_eq
      subst same
      rw [walk] at leads
      exact ⟨at_, .inl (Except.ok.inj leads).symm⟩
    | cons _ names => exact ih (List.cons.inj all_eq).2 leads

theorem pieces_join (dir : String) (single : '/' ∉ name.toList) :
    ∃ names, Path.pieces (Path.join dir name) = names ++ [name] := by
  have relative : Path.isAbsolute name = false := by
    unfold Path.isAbsolute
    cases chars : name.toList with
    | nil => rfl
    | cons first rest =>
      have other : first ≠ '/' := fun same => single (by simp [chars, same])
      simpa using other
  have last : name.toList.splitOn '/' = [name.toList] := List.splitOn_eq_singleton single
  have below (above : List Char) :
      ((above ++ '/' :: name.toList).splitOn '/').map String.ofList =
        (above.splitOn '/').map String.ofList ++ [name] := by
    have cut : (above ++ '/' :: name.toList).splitOn '/' =
        above.splitOn '/' ++ name.toList.splitOn '/' :=
      List.splitOnP_append_cons above name.toList (by simp)
    simp [cut, last]
  unfold Path.pieces Path.join
  simp only [relative, Bool.false_eq_true, if_false]
  split
  · rename_i bare
    obtain empty | slash := bare
    · obtain rfl : dir = "" := by simpa using empty
      exact ⟨[], by simp [last]⟩
    · obtain ⟨above, whole⟩ := List.getLast?_eq_some_iff.1 slash
      exact ⟨_, by simpa [whole] using below above⟩
  · exact ⟨_, by simpa using below dir.toList⟩

theorem create_join {dir : String} (plain : IsPlain name) (single : '/' ∉ name.toList)
    (unlinked : ¬ fs.HasLink name) (opened : fs.create (Path.join dir name) = .ok (h, fs')) :
    ∃ above, h.location = above ++ [name] := by
  obtain ⟨names, parts⟩ := pieces_join dir single
  obtain ⟨target, l, leads, kind, rfl, -⟩ := create_cases opened
  unfold resolve at leads
  cases isPath : checkPath (Path.join dir name) with
  | error e => simp [isPath, bind, Except.bind] at leads
  | ok =>
    simp only [isPath, bind, Except.bind, parts] at leads
    obtain ⟨above, named⟩ := walk_last plain unlinked leads
    refine ⟨above, ?_⟩
    obtain rfl | rfl := kind
    · simpa using named
    · simpa using named

theorem MakesRoom.contentAt_eq (room : fs.MakesRoom fs') (l : Location) :
    fs'.contentAt l = fs.contentAt l := by
  obtain same | ⟨free, made⟩ := room l
  · simp [contentAt, same]
  · simp [contentAt, free, made]

theorem OnlyAt.contentAt_eq (only : OnlyAt l fs fs') (other : l' ≠ l) :
    fs'.contentAt l' = fs.contentAt l' := by
  simp [contentAt, only.others l' other]

end MessageTunnel.FileSystem
