import GreenticConformance.Host.Lexical

/-!
# Components of paths

Two paths are the same when they have the same components: separators that are
repeated, single dots and what trails a path do not count. A name that is joined to a
path is its last component, and the parent of the joined path is that path again.

## Main definitions

- `components`, `Same` — `Path::components`, and the equality of paths
- `IsName` — the text is one component

## Main results

- `parent_join` — the parent of a joined name
- `components_trimEnd`, `trimEnd_trimEnd` — what trails a path is dropped once
- `components_join` — a joined name is the last component
-/

namespace GreenticConformance.Host

open Paths

/-- `std::path::Component` on Unix. -/
inductive Component where
  | rootDir
  | curDir
  | parentDir
  | normal (name : OsStr)
  deriving DecidableEq

def Component.ofStep : Step OsStr → Component
  | .up => .parentDir
  | .down name => .normal name

namespace Path

/-- The text in front of the first separator. -/
def firstSegment (t : OsStr) : OsStr := t.takeWhile (· ≠ separator)

/-- What a path starts from. A leading dot counts. -/
def anchor (t : OsStr) : List Component :=
  if t.head? = some separator then [.rootDir]
  else if firstSegment t = [dot] then [.curDir]
  else []

/-- `Path::components`. -/
def components (p : Path) : List Component := anchor p.text ++ (steps p.text).map .ofStep

/-- `PartialEq` of paths. -/
def Same (p p' : Path) : Prop := p.components = p'.components

instance (p p' : Path) : Decidable (Same p p') :=
  inferInstanceAs (Decidable (p.components = p'.components))

example : (ofString "./packs//demo/../flows/.").components =
    [.curDir, .normal (.ofString "packs"), .normal (.ofString "demo"), .parentDir,
      .normal (.ofString "flows")] := by decide

@[refl] theorem Same.refl (p : Path) : Same p p := rfl

theorem Same.symm {p p' : Path} (h : Same p p') : Same p' p := Eq.symm h

theorem Same.trans {p p' p'' : Path} (h : Same p p') (h' : Same p' p'') : Same p p'' :=
  Eq.trans h h'

/-- The text of one normal component. -/
structure IsName (name : OsStr) : Prop where
  nonempty : name ≠ []
  noSeparator : separator ∉ name
  notCurrent : name ≠ [dot]
  notParent : name ≠ [dot, dot]

instance (name : OsStr) : Decidable (IsName name) :=
  decidable_of_iff (name ≠ [] ∧ separator ∉ name ∧ name ≠ [dot] ∧ name ≠ [dot, dot])
    ⟨fun ⟨h₁, h₂, h₃, h₄⟩ => ⟨h₁, h₂, h₃, h₄⟩, fun ⟨h₁, h₂, h₃, h₄⟩ => ⟨h₁, h₂, h₃, h₄⟩⟩

/-! ## What trails a path -/

variable {t t' u before name : OsStr} {p q : Path}

/-- The text is empty or ends at a separator. -/
def EndsOpen (t : OsStr) : Prop := t = [] ∨ t.getLast? = some separator

/-- The last separator is the last one: nothing behind it has any. -/
theorem splitLast_append (hb : EndsOpen before) (hn : separator ∉ name) :
    splitLast (before ++ name) = (before, name) := by
  have hname : ∀ c ∈ name.reverse, decide (c ≠ separator) = true := by
    intro c hc
    exact decide_eq_true fun heq => hn (heq ▸ List.mem_reverse.mp hc)
  have hstop : before.reverse.dropWhile (fun c => decide (c ≠ separator)) = before.reverse ∧
      before.reverse.takeWhile (fun c => decide (c ≠ separator)) = [] := by
    rcases hb with rfl | hlast
    · exact ⟨rfl, rfl⟩
    · obtain ⟨u, rfl⟩ := List.getLast?_eq_some_iff.mp hlast
      simp
  rw [splitLast, List.rdropWhile, List.rtakeWhile, List.reverse_append,
    List.dropWhile_append_of_pos hname, List.takeWhile_append_of_pos hname, hstop.1, hstop.2]
  simp

theorem splitLast_cases (t : OsStr) : ∃ before name, t = before ++ name ∧ EndsOpen before ∧
    separator ∉ name ∧ splitLast t = (before, name) := by
  refine ⟨(splitLast t).1, (splitLast t).2, ?_, ?_, ?_, rfl⟩
  · exact (List.rdropWhile_append_rtakeWhile).symm
  · by_cases hempty : t.rdropWhile (· ≠ separator) = []
    · exact .inl hempty
    · have hlast := List.rdropWhile_last_not _ t hempty
      refine .inr ?_
      rw [splitLast, List.getLast?_eq_getLast_of_ne_nil hempty]
      simpa using hlast
  · intro hmem
    have hkept := List.mem_rtakeWhile_imp hmem
    simp at hkept

/-- What is dropped at once: a separator that does not stand alone, or a dot behind
one. -/
inductive Trims : OsStr → OsStr → Prop
  | separator {u : OsStr} (hne : u ≠ []) : Trims (u ++ [separator]) u
  | dot (u : OsStr) : Trims (u ++ [Path.separator, Path.dot]) (u ++ [Path.separator])

theorem endsOpen_separator (u : OsStr) : EndsOpen (u ++ [separator]) := .inr (by simp)

theorem trims_iff : Trims t t' ↔
    ((splitLast t).2 = [] ∧ 1 < (splitLast t).1.length ∧ t' = (splitLast t).1.dropLast) ∨
    ((splitLast t).2 = [dot] ∧ (splitLast t).1 ≠ [] ∧ t' = (splitLast t).1) := by
  constructor
  · intro h
    cases h with
    | separator hne =>
      have hsplit : splitLast (t' ++ [Path.separator] ++ []) = (t' ++ [Path.separator], []) :=
        splitLast_append (endsOpen_separator t') (by simp)
      rw [List.append_nil] at hsplit
      have hlength : 0 < t'.length := List.length_pos_iff.mpr hne
      exact .inl ⟨by rw [hsplit], by rw [hsplit]; simpa using hlength, by rw [hsplit]; simp⟩
    | dot u =>
      have hsplit : splitLast (u ++ [Path.separator] ++ [Path.dot]) =
          (u ++ [Path.separator], [Path.dot]) :=
        splitLast_append (endsOpen_separator u) (by decide)
      have hshift : u ++ [separator, dot] = u ++ [separator] ++ [dot] := by simp
      rw [hshift, hsplit]
      exact .inr ⟨rfl, by simp, rfl⟩
  · intro h
    obtain ⟨before, name, rfl, hopen, -, hsplit⟩ := splitLast_cases t
    rw [hsplit] at h
    rcases h with ⟨rfl, hlength, rfl⟩ | ⟨rfl, hne, rfl⟩
    · rcases hopen with rfl | hlast
      · simp at hlength
      · obtain ⟨u, rfl⟩ := List.getLast?_eq_some_iff.mp hlast
        have hu : u ≠ [] := by
          rintro rfl
          simp at hlength
        simpa using Trims.separator hu
    · rcases hopen with rfl | hlast
      · exact absurd rfl hne
      · obtain ⟨u, rfl⟩ := List.getLast?_eq_some_iff.mp hlast
        simpa using Trims.dot u

theorem Trims.length (h : Trims t t') : t.length = t'.length + 1 := by
  cases h <;> simp

/-- One turn of the loop drops something, or there is nothing to drop. -/
theorem go_succ (n : ℕ) (t : OsStr) :
    (∃ t', Trims t t' ∧ trimEnd.go (n + 1) t = trimEnd.go n t') ∨
      (∀ t', ¬ Trims t t') ∧ trimEnd.go (n + 1) t = t := by
  simp only [trims_iff, trimEnd.go]
  generalize splitLast t = split
  obtain ⟨before, name⟩ := split
  match name with
  | [] =>
    by_cases hlength : before.length ≤ 1
    · exact .inr ⟨by simp [hlength], by simp [hlength]⟩
    · exact .inl ⟨before.dropLast, .inl ⟨rfl, Nat.not_le.mp hlength, rfl⟩, by simp [hlength]⟩
  | [c] =>
    by_cases hdot : c = dot ∧ before ≠ []
    · exact .inl ⟨before, .inr ⟨by simp [hdot.1], hdot.2, rfl⟩, by simp [hdot]⟩
    · refine .inr ⟨fun t' h => ?_, by simp [hdot]⟩
      rcases h with ⟨hnil, -⟩ | ⟨hname, hne, -⟩
      · exact List.cons_ne_nil _ _ hnil
      · exact hdot ⟨List.singleton_inj.mp hname, hne⟩
  | c :: d :: rest => exact .inr ⟨by simp, rfl⟩

/-- What has nothing to drop stays. -/
theorem go_of_not_trims (h : ∀ t', ¬ Trims t t') (n : ℕ) : trimEnd.go n t = t := by
  cases n with
  | zero => rfl
  | succ n =>
    rcases go_succ n t with ⟨t', ht, -⟩ | ⟨-, hgo⟩
    · exact absurd ht (h t')
    · exact hgo

theorem go_of_trims (h : Trims t t') (n : ℕ) : trimEnd.go (n + 1) t = trimEnd.go n t' := by
  rcases go_succ n t with ⟨u, hu, hgo⟩ | ⟨hno, -⟩
  · rw [hgo]
    rw [trims_iff] at h hu
    rcases h with ⟨hnil, -, rfl⟩ | ⟨hdot, -, rfl⟩
    · rcases hu with ⟨-, -, rfl⟩ | ⟨hdot, -⟩
      · rfl
      · cases hnil.symm.trans hdot
    · rcases hu with ⟨hnil, -⟩ | ⟨-, -, rfl⟩
      · cases hnil.symm.trans hdot
      · rfl
  · exact absurd h (hno t')

/-- The loop goes on until nothing is left to drop. -/
theorem not_trims_go {n : ℕ} (hn : t.length ≤ n) : ∀ t', ¬ Trims (trimEnd.go n t) t' := by
  induction n generalizing t with
  | zero =>
    intro t' h
    have hlength := h.length
    have hgo : trimEnd.go 0 t = t := rfl
    rw [hgo] at hlength
    omega
  | succ n ih =>
    rcases go_succ n t with ⟨t', ht, hgo⟩ | ⟨hno, hgo⟩
    · have hlength := ht.length
      rw [hgo]
      exact ih (by omega)
    · rwa [hgo]

theorem trimEnd_trimEnd (t : OsStr) : trimEnd (trimEnd t) = trimEnd t :=
  go_of_not_trims (not_trims_go le_rfl) _

/-- A separator that trails a path is dropped. -/
theorem trimEnd_separator (hne : t ≠ []) : trimEnd (t ++ [separator]) = trimEnd t := by
  rw [trimEnd, List.length_append, List.length_singleton, go_of_trims (.separator hne)]
  rfl

/-- A path that ends at a name keeps it. -/
theorem trimEnd_append_name (hb : EndsOpen before) (hn : IsName name) :
    trimEnd (before ++ name) = before ++ name := by
  refine go_of_not_trims (fun t' h => ?_) _
  rw [trims_iff, splitLast_append hb hn.noSeparator] at h
  rcases h with ⟨hnil, -⟩ | ⟨hdot, -⟩
  · exact hn.nonempty hnil
  · exact hn.notCurrent hdot

/-! ## Components of a trimmed path -/

theorem steps_append_separator_nil (u : OsStr) : steps (u ++ [separator]) = steps u := by
  rw [steps_append_separator, steps_nil, List.append_nil]

/-- A path with a separator behind it starts from where it started. -/
theorem anchor_append_separator (hne : u ≠ []) (t : OsStr) :
    anchor (u ++ separator :: t) = anchor u := by
  have hfirst : firstSegment (u ++ separator :: t) = firstSegment u := by
    unfold firstSegment
    induction u with
    | nil => exact absurd rfl hne
    | cons c u ih =>
      by_cases hc : c = separator
      · simp [hc]
      · cases u with
        | nil => simp [hc]
        | cons d u => simpa [hc] using ih (by simp)
  have hhead : (u ++ separator :: t).head? = u.head? := by
    cases u with
    | nil => exact absurd rfl hne
    | cons c u => rfl
  rw [anchor, anchor, hfirst, hhead]

theorem components_of_trims (h : Trims t t') : components ⟨t⟩ = components ⟨t'⟩ := by
  unfold components
  cases h with
  | separator hne => rw [anchor_append_separator hne, steps_append_separator_nil]
  | dot u =>
    have hdot : steps [dot] = [] := rfl
    rw [steps_append_separator, steps_append_separator_nil, hdot, List.append_nil]
    cases u with
    | nil => rfl
    | cons c u => rw [anchor_append_separator (by simp), anchor_append_separator (by simp)]

theorem components_trimEnd (t : OsStr) : components ⟨trimEnd t⟩ = components ⟨t⟩ := by
  have hgo : ∀ n u, components ⟨trimEnd.go n u⟩ = components ⟨u⟩ := by
    intro n
    induction n with
    | zero =>
      intro u
      rfl
    | succ n ih =>
      intro u
      rcases go_succ n u with ⟨u', hu, hgo⟩ | ⟨-, hgo⟩
      · rw [hgo, ih, components_of_trims hu]
      · rw [hgo]
  exact hgo t.length t

/-! ## Joined names -/

theorem IsName.isAbsolute (h : IsName name) : isAbsolute ⟨name⟩ = false := by
  cases name with
  | nil => exact absurd rfl h.nonempty
  | cons c name =>
    have hc : c ≠ separator := fun heq => h.noSeparator (heq ▸ List.mem_cons_self)
    simpa [isAbsolute] using hc

/-- A name is joined to the text of a path, with a separator in between if there is
none. -/
theorem exists_join (p : Path) : ∃ before, EndsOpen before ∧ trimEnd before = trimEnd p.text ∧
    ∀ name, IsName name → p.join ⟨name⟩ = ⟨before ++ name⟩ := by
  by_cases hopen : p.text = [] ∨ p.text.getLast? = some separator
  · refine ⟨p.text, hopen, rfl, fun name hn => ?_⟩
    rw [join, if_neg (by simp [hn.isAbsolute]), if_pos hopen]
  · have hne : p.text ≠ [] := fun heq => hopen (.inl heq)
    refine ⟨p.text ++ [separator], endsOpen_separator p.text, trimEnd_separator hne, ?_⟩
    intro name hn
    rw [join, if_neg (by simp [hn.isAbsolute]), if_neg hopen, List.append_assoc]
    rfl

/-- The parent of a joined name is the path it was joined to, without what trails it. -/
theorem parent_join (p : Path) (hn : IsName name) :
    (p.join ⟨name⟩).parent = some ⟨trimEnd p.text⟩ := by
  obtain ⟨before, hopen, htrim, hjoin⟩ := exists_join p
  have hne : before ++ name ≠ [] := by simp [hn.nonempty]
  have hroot : before ++ name ≠ [separator] := by
    intro heq
    -- the last character is one of the name
    rw [List.append_eq_singleton_iff] at heq
    rcases heq with ⟨-, hname⟩ | ⟨-, hname⟩
    · exact hn.noSeparator (by simp [hname])
    · exact hn.nonempty hname
  rw [hjoin name hn, parent]
  simp only [trimEnd_append_name hopen hn, hne, hroot, or_self, if_false,
    splitLast_append hopen hn.noSeparator, htrim]

theorem fileName_join (p : Path) (hn : IsName name) : (p.join ⟨name⟩).fileName = some name := by
  obtain ⟨before, hopen, -, hjoin⟩ := exists_join p
  rw [hjoin name hn, fileName]
  simp only [trimEnd_append_name hopen hn, splitLast_append hopen hn.noSeparator]
  cases name with
  | nil => exact absurd rfl hn.nonempty
  | cons c rest => simp [hn.notCurrent, hn.notParent]

/-- The extension of a joined name is its own. -/
theorem hasExtension_join (p p' : Path) (hn : IsName name) (names : List String) :
    (p.join ⟨name⟩).hasExtension names = (p'.join ⟨name⟩).hasExtension names := by
  rw [hasExtension, hasExtension, extension, extension, fileName_join p hn, fileName_join p' hn]

theorem mem_of_mem_splitExtension {c : OsChar} (h : c ∈ (splitExtension name).1) : c ∈ name := by
  unfold splitExtension at h
  split at h
  · exact h
  · exact h
  · exact (List.rdropWhile_prefix _ name).subset (List.dropLast_subset _ h)

/-- The name with another extension. -/
def siblingName (name : OsStr) (extension : String) : OsStr :=
  (splitExtension name).1 ++ dot :: OsStr.ofString extension

theorem IsName.sibling (hn : IsName name) {extension : String}
    (hext : separator ∉ OsStr.ofString extension)
    (hlength : 2 ≤ (OsStr.ofString extension).length) :
    IsName (siblingName name extension) := by
  have hlong : 3 ≤ (siblingName name extension).length := by
    simp only [siblingName, List.length_append, List.length_cons]
    omega
  refine ⟨?_, ?_, ?_, ?_⟩
  · intro heq
    simp [heq] at hlong
  · intro hmem
    rcases List.mem_append.mp hmem with hstem | hrest
    · exact hn.noSeparator (mem_of_mem_splitExtension hstem)
    · rcases List.mem_cons.mp hrest with heq | hmem
      · exact absurd heq (by decide)
      · exact hext hmem
  · intro heq
    simp [heq] at hlong
  · intro heq
    simp [heq] at hlong

/-- Another extension gives a neighbour. -/
theorem withExtension_join (p : Path) (hn : IsName name) {extension : String}
    (hne : extension ≠ "") (hsibling : IsName (siblingName name extension)) :
    (p.join ⟨name⟩).withExtension extension = p.join ⟨siblingName name extension⟩ := by
  have hfile := fileName_join p hn
  obtain ⟨before, hopen, -, hjoin⟩ := exists_join p
  rw [hjoin name hn] at hfile ⊢
  rw [hjoin _ hsibling, withExtension, hfile]
  simp only [if_neg hne, trimEnd_append_name hopen hn, splitLast_append hopen hn.noSeparator,
    siblingName, List.append_assoc]

theorem steps_name (hn : IsName name) : steps name = [.down name] := by
  have hfree : ∀ c ∈ name, (c == separator) = false := by
    intro c hc
    exact beq_eq_false_iff_ne.mpr fun heq => hn.noSeparator (heq ▸ hc)
  rw [steps, List.splitOn_eq_splitOnP, List.splitOnP_eq_singleton hfree]
  simp [component, hn.nonempty, hn.notCurrent, hn.notParent]

theorem anchor_join (p : Path) (hn : IsName name) :
    anchor (p.join ⟨name⟩).text = anchor p.text := by
  have hname : anchor name = [] := by
    have hfree : ∀ c ∈ name, decide (c ≠ separator) = true := by
      intro c hc
      exact decide_eq_true fun heq => hn.noSeparator (heq ▸ hc)
    have hfirst : firstSegment name = name := List.takeWhile_eq_self_iff.mpr hfree
    have hhead := hn.isAbsolute
    rw [isAbsolute] at hhead
    rw [anchor, if_neg (by simpa using hhead), hfirst, if_neg hn.notCurrent]
  rw [join, if_neg (by simp [hn.isAbsolute])]
  by_cases hempty : p.text = []
  · rw [if_pos (.inl hempty)]
    show anchor (p.text ++ name) = anchor p.text
    rw [hempty]
    exact hname
  · by_cases hlast : p.text.getLast? = some separator
    · rw [if_pos (.inr hlast)]
      show anchor (p.text ++ name) = anchor p.text
      obtain ⟨u, hu⟩ := List.getLast?_eq_some_iff.mp hlast
      rw [hu, List.append_assoc, List.singleton_append]
      cases u with
      | nil => rfl
      | cons c u => rw [anchor_append_separator (by simp), anchor_append_separator (by simp)]
    · rw [if_neg (by simp [hempty, hlast])]
      exact anchor_append_separator hempty name

/-- A joined name is the last component. -/
theorem components_join (p : Path) (hn : IsName name) :
    (p.join ⟨name⟩).components = p.components ++ [.normal name] := by
  rw [components, components, anchor_join p hn, steps_join hn.isAbsolute, List.map_append,
    steps_name hn, List.append_assoc]
  rfl

theorem Same.join {p p' : Path} (h : Same p p') (hn : IsName name) :
    Same (p.join ⟨name⟩) (p'.join ⟨name⟩) := by
  unfold Same at h ⊢
  rw [components_join p hn, components_join p' hn, h]

end Path

end GreenticConformance.Host
