import ScriptCore.Capability.Host

set_option autoImplicit false

/-! # Looking paths up, on every host

Two facts about `FileSystem.resolveOn` hold whatever the `HostView`. A relative path that
never climbs with `..` stays inside the working directory, where there are no links, so it
names what the file system's own look-up `FileSystem.lookupFrom` finds for its names; the host
plays no part (`FileSystem.resolveOn_relative`). And the allowance of links only cuts a look-up
short: a look-up that does not run out of links gives the same answer under any larger
allowance (`FileSystem.walk_mono`), which is what makes the allowance a limit and not part of
the answer.

Main statements: `FileSystem.resolveOn_relative` and `FileSystem.walk_mono`. -/

namespace ScriptCore

namespace FileSystem

variable (fs : FileSystem) (view : HostView)

/-! ## Inside the working directory -/

/-- The names of some parts: those other than empty parts and `.`. -/
theorem isEmpty_filter_names {rest : List String} (h : ∀ l ∈ rest.getLast?, l ≠ "" ∧ l ≠ ".") :
    (rest.filter fun part => part != "" && part != ".").isEmpty = rest.isEmpty := by
  cases hl : rest.getLast? with
  | none => rw [List.getLast?_eq_none_iff.1 hl]; rfl
  | some l =>
    -- the last part is a name, so it is kept
    have hmem : l ∈ rest := List.mem_of_getLast? hl
    obtain ⟨h1, h2⟩ := h l hl
    have hkept : l ∈ rest.filter fun part => part != "" && part != "." :=
      List.mem_filter.2 ⟨hmem, by simp [h1, h2]⟩
    rw [List.isEmpty_eq_false_iff.2 (List.ne_nil_of_mem hkept),
      List.isEmpty_eq_false_iff.2 (List.ne_nil_of_mem hmem)]

/-- A walk inside the working directory on parts without `..` that end in a name is the file
system's own look-up of those parts that are names: empty parts and `.` leave the walk where it
is. (A file followed only by such parts is no directory to the walk.) -/
theorem walkWith_inside (deeper : Option (Place → List String → Except IoError Node)) :
    ∀ (dir parts : List String), ".." ∉ parts → (∀ l ∈ parts.getLast?, l ≠ "" ∧ l ≠ ".") →
      fs.walkWith view deeper (.inside dir) parts =
        fs.lookupFrom dir (parts.filter fun part => part != "" && part != ".")
  | dir, [], _, _ => rfl
  | dir, c :: rest, h, hlast => by
    have hc : c ≠ ".." := fun he => h (he ▸ List.mem_cons_self)
    have hrest : ".." ∉ rest := fun hm => h (List.mem_cons_of_mem _ hm)
    have hlast' : ∀ l ∈ rest.getLast?, l ≠ "" ∧ l ≠ "." := by
      cases rest with
      | nil => simp
      | cons r rs => exact fun l hl => hlast l (by simpa [List.getLast?_cons_cons] using hl)
    by_cases hskip : c = "" ∨ c = "."
    · -- the walk stays put, and the names leave the part out
      have hdrop : (c != "" && c != ".") = false := by
        rcases hskip with rfl | rfl <;> rfl
      have hfilter : (c :: rest).filter (fun part => part != "" && part != ".") =
          rest.filter (fun part => part != "" && part != ".") := by
        simp only [List.filter_cons, hdrop, Bool.false_eq_true, ↓reduceIte]
      rw [walkWith.eq_def]
      dsimp only
      rw [if_pos hskip, walkWith_inside deeper dir rest hrest hlast', hfilter]
    · have hkeep : (c != "" && c != ".") = true := by
        simpa [not_or] using hskip
      have hfilter : (c :: rest).filter (fun part => part != "" && part != ".") =
          c :: rest.filter (fun part => part != "" && part != ".") := by
        simp only [List.filter_cons, hkeep, ↓reduceIte]
      rw [walkWith.eq_def]
      dsimp only
      rw [if_neg hskip, if_neg hc, hfilter, lookupFrom]
      -- the working directory refuses long names, as the file system's look-up does
      by_cases hlong : maxComponentBytes < c.utf8ByteSize
      · simp only [Place.limitsNames, hlong, decide_true, Bool.true_and, ↓reduceIte]
      · simp only [Place.limitsNames, hlong, decide_false, Bool.true_and, Bool.false_eq_true,
          ↓reduceIte, Place.find, Place.down]
        cases hn : fs.nodeAt? (dir ++ [c]) with
        | none => rfl
        | some node =>
          cases node with
          | directory => exact walkWith_inside deeper (dir ++ [c]) rest hrest hlast'
          | file bytes =>
            simp only [isEmpty_filter_names hlast']

/-- A path that does not start with `/` has a first part that is not empty. -/
theorem splitSlashes_cons_of_ne {c : Char} (hc : c ≠ '/') (rest : List Char) :
    ∃ part more, splitSlashes (c :: rest) = (String.singleton c ++ part) :: more := by
  unfold splitSlashes
  cases splitSlashes rest with
  | nil => exact ⟨"", [], by simp⟩
  | cons part more => exact ⟨part, more, by simp [hc]⟩

/-- A relative path that never climbs with `..` and ends in a name, with no NUL and not too
long, names what the file system's own look-up finds for its names, on every host. -/
theorem resolveOn_relative {path : String} (hnul : path.toList.contains '\x00' = false)
    (hlen : path.utf8ByteSize < pathLimitBytes) {c : Char} {cs : List Char}
    (hpath : path.toList = c :: cs) (hc : c ≠ '/') (hup : ".." ∉ splitSlashes path.toList)
    (hlast : ∀ l ∈ (splitSlashes path.toList).getLast?, l ≠ "" ∧ l ≠ ".") :
    fs.resolveOn view path = fs.lookupFrom [] (names path) := by
  have hne : path.isEmpty = false := by
    rw [Bool.eq_false_iff]
    intro he
    rw [String.isEmpty_iff.1 he] at hpath
    cases hpath
  obtain ⟨part, more, hsplit⟩ := splitSlashes_cons_of_ne hc cs
  unfold resolveOn
  rw [if_neg (Bool.eq_false_iff.1 hnul), if_neg (Nat.not_le.2 hlen),
    if_neg (Bool.eq_false_iff.1 hne)]
  rw [hpath] at hup hlast ⊢
  rw [hsplit] at hup hlast ⊢
  split
  · -- the first part holds `c`, so it is not empty
    rename_i rest heq
    have hfirst := congrArg String.length (List.cons.inj heq).1
    simp at hfirst
  · rename_i parts _
    cases view.maxLinks <;>
      exact (walkWith_inside fs view _ [] _ hup hlast).trans (by rw [names, hpath, hsplit])

/-! ## The allowance of links -/

/-- The second walk gives every answer the first gives, except running out of links. -/
def AgreesBeyond (w w' : Place → List String → Except IoError Node) : Prop :=
  ∀ p cs, w p cs ≠ .error .tooManyLinks → w' p cs = w p cs

/-- Walks for the links, with no walk meaning that no more links may be followed: the second
allows at least what the first does, and agrees with it where the first does not run out. -/
def DeeperAgrees : Option (Place → List String → Except IoError Node) →
    Option (Place → List String → Except IoError Node) → Prop
  | none, _ => True
  | some w, some w' => AgreesBeyond w w'
  | some _, none => False

theorem walkWith_agrees {d d' : Option (Place → List String → Except IoError Node)}
    (h : DeeperAgrees d d') : AgreesBeyond (fs.walkWith view d) (fs.walkWith view d') := by
  intro p cs
  induction cs generalizing p with
  | nil => intro _; rfl
  | cons c rest ih =>
    intro hne
    -- unfold one step of both walks
    rw [walkWith.eq_def] at hne
    conv => lhs; rw [walkWith.eq_def]
    conv => rhs; rw [walkWith.eq_def]
    dsimp only at hne ⊢
    by_cases hskip : c = "" ∨ c = "."
    · simp only [if_pos hskip] at hne ⊢
      exact ih p hne
    simp only [if_neg hskip] at hne ⊢
    by_cases hup : c = ".."
    · simp only [if_pos hup] at hne ⊢
      exact ih _ hne
    simp only [if_neg hup] at hne ⊢
    by_cases hlong : (p.limitsNames view && decide (maxComponentBytes < c.utf8ByteSize)) = true
    · simp only [if_pos hlong]
    simp only [if_neg hlong] at hne ⊢
    -- only a link or a held file looks at the walk for the links
    cases hfind : Place.find view fs p c with
    | missing => rfl
    | directory next =>
      rw [hfind] at hne
      exact ih next hne
    | file bytes => rfl
    | closed e => rfl
    | link start components =>
      rw [hfind] at hne
      cases d with
      | none => exact absurd rfl hne
      | some w =>
        cases d' with
        | none => exact absurd h id
        | some w' => exact h start (components ++ rest) hne
    | heldFile =>
      rw [hfind] at hne
      cases d with
      | none => exact absurd rfl hne
      | some w =>
        cases d' with
        | none => exact absurd h id
        | some w' => rfl

theorem walk_agrees_succ : ∀ n, AgreesBeyond (fs.walk view n) (fs.walk view (n + 1))
  | 0 => fs.walkWith_agrees view (trivial : DeeperAgrees none (some (fs.walk view 0)))
  | n + 1 => fs.walkWith_agrees view
    (walk_agrees_succ n : DeeperAgrees (some (fs.walk view n)) (some (fs.walk view (n + 1))))

/-- A look-up that does not run out of links gives the same answer under any larger
allowance. -/
theorem walk_mono {n m : Nat} (hnm : n ≤ m) {p : Place} {cs : List String}
    (h : fs.walk view n p cs ≠ .error .tooManyLinks) : fs.walk view m p cs = fs.walk view n p cs := by
  induction hnm with
  | refl => rfl
  | step _ ih =>
    rw [← ih]
    exact fs.walk_agrees_succ view _ p cs (ih ▸ h)

end FileSystem

end ScriptCore
