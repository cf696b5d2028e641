import NodeSignal.CStrings
import NodeSignal.RingWindow

/-!
# The directory of the executable

`ns_get_executable_dir` reads the link `/proc/self/exe` into the caller's
buffer and cuts the path at its last separator.  `readlink` does not say
whether the path fits: it stores as many bytes as there is room for.
-/

namespace NodeSignal

open CStrings RingWindow

def slash : UInt8 := 47

def backslash : UInt8 := 92

def dot : UInt8 := 46

/-- A path that starts at the root. -/
structure AbsolutePath where
  bytes : List UInt8
  absolute : bytes.head? = some slash

/-- What `readlink` stores of the path when it has room for so many bytes;
`none` stands for -1. -/
def readlink (path : List UInt8) (room : ℕ) : Option (List UInt8) :=
  if room = 0 then none else some (path.take room)

/-- The backward scan of `ns_get_executable_dir` from the given index on. -/
def cutAtSeparator : ℕ → List UInt8 → List UInt8
  | 0, buffer =>
      blit buffer 0 ((snprintf buffer.length [[dot]]).1 ++ [0])
  | index + 1, buffer =>
      if buffer[index]? = some slash ∨ buffer[index]? = some backslash then
        buffer.set index 0
      else cutAtSeparator index buffer

/-- `ns_get_executable_dir` for an executable with the given path.  The
buffer is the array behind the pointer, empty for `NULL`, and its length the
size that is passed. -/
def nsGetExecutableDir (path buffer : List UInt8) : ℤ × List UInt8 :=
  if buffer = [] then (-1, buffer)
  else
    match readlink path (buffer.length - 1) with
    | none => (-1, buffer.set 0 0)
    | some bytes =>
        let written := blit buffer 0 bytes
        if bytes.length ≥ buffer.length then (-1, written.set 0 0)
        else
          let written := written.set bytes.length 0
          (0, cutAtSeparator (text written).length written)

/-! ## The directory asked for -/

/-- A path of components that all lead from the root back to it. -/
def DenotesRoot (path : List UInt8) : Prop :=
  ∃ components : List (List UInt8), components ≠ [] ∧
    (∀ component ∈ components,
      component = [] ∨ component = [dot] ∨ component = [dot, dot]) ∧
    path = components.flatMap fun component => slash :: component

/-- The part of the path before its last slash, or a name of the root. -/
def IsDirectoryOf (path directory : List UInt8) : Prop :=
  ∃ before name, path = before ++ slash :: name ∧ slash ∉ name ∧
    if before = [] then DenotesRoot directory else directory = before

/-- The array holds the string and its terminator. -/
def HoldsString (buffer string : List UInt8) : Prop :=
  0 ∉ string ∧ ∃ rest, buffer = string ++ 0 :: rest

structure RightOrRefused (path : List UInt8) (size : ℕ)
    (result : ℤ × List UInt8) : Prop where
  right : result.1 = 0 →
    ∃ directory, HoldsString result.2 directory ∧ IsDirectoryOf path directory
  refused : size < path.length + 1 →
    result.1 = -1 ∧ text result.2 = []

/-- The last separator is the last slash, and it ends a directory.  For an
executable in the root a backslash in its name may leave a name of the
root. -/
def CutAtSlash (path : List UInt8) : Prop :=
  ∃ before name, path = before ++ slash :: name ∧ slash ∉ name ∧
    if before = [] then
      ∃ component rest, text name = component ++ backslash :: rest ∧
        backslash ∉ rest ∧
        (component = [] ∨ component = [dot] ∨ component = [dot, dot])
    else 0 ∉ before ∧ backslash ∉ text name

/-! ## The scan -/

def IsSeparator (byte : UInt8) : Prop := byte = slash ∨ byte = backslash

/-- The scan ends at the last separator. -/
theorem cutAtSeparator_eq {before name rest : List UInt8}
    {separator : UInt8} (hseparator : IsSeparator separator)
    (hname : ∀ byte ∈ name, ¬ IsSeparator byte) :
    cutAtSeparator (before ++ separator :: name).length
        (before ++ separator :: name ++ rest) =
      before ++ 0 :: (name ++ rest) := by
  induction name using List.reverseRecOn generalizing rest with
  | nil =>
      have hfound : (before ++ separator :: rest)[before.length]? =
          some separator := by simp
      have hcut : (before ++ separator :: rest)[before.length]? =
            some slash ∨
          (before ++ separator :: rest)[before.length]? =
            some backslash := by
        rw [hfound]
        exact hseparator.imp (congrArg some) (congrArg some)
      have hlength : (before ++ [separator]).length =
          before.length + 1 := by simp
      rw [hlength, List.append_assoc, List.singleton_append,
        cutAtSeparator, if_pos hcut]
      simp
  | append_singleton name last ih =>
      have hlast := hname last (by simp)
      have hearlier : ∀ byte ∈ name, ¬ IsSeparator byte :=
        fun byte hbyte => hname byte (List.mem_append_left _ hbyte)
      have hfound : (before ++ separator :: (name ++ [last]) ++
          rest)[(before ++ separator :: name).length]? = some last := by
        simp
      have hlength : (before ++ separator :: (name ++ [last])).length =
          (before ++ separator :: name).length + 1 := by
        simp [Nat.add_assoc]
      rw [hlength, cutAtSeparator, hfound, if_neg]
      · have hsplit : before ++ separator :: (name ++ [last]) ++ rest =
            before ++ separator :: name ++ last :: rest := by simp
        rw [hsplit, ih hearlier]
        simp
      · simpa [IsSeparator] using hlast

theorem exists_last_separator {bytes : List UInt8}
    (hfound : ∃ byte ∈ bytes, IsSeparator byte) :
    ∃ before separator name, bytes = before ++ separator :: name ∧
      IsSeparator separator ∧ ∀ byte ∈ name, ¬ IsSeparator byte := by
  induction bytes using List.reverseRecOn with
  | nil => simp at hfound
  | append_singleton bytes last ih =>
      by_cases hlast : IsSeparator last
      · exact ⟨bytes, last, [], rfl, hlast, by simp⟩
      · have hearlier : ∃ byte ∈ bytes, IsSeparator byte := by
          rcases hfound with ⟨byte, hbyte, hseparator⟩
          rcases List.mem_append.mp hbyte with hin | hsame
          · exact ⟨byte, hin, hseparator⟩
          · rw [List.mem_singleton.mp hsame] at hseparator
            exact absurd hseparator hlast
        rcases ih hearlier with ⟨before, separator, name, rfl, hsep, hname⟩
        refine ⟨before, separator, name ++ [last], by simp, hsep, ?_⟩
        intro byte hbyte
        rcases List.mem_append.mp hbyte with hin | hsame
        · exact hname byte hin
        · rw [List.mem_singleton.mp hsame]
          exact hlast

theorem last_separator_unique {before before' name name' : List UInt8}
    {separator separator' : UInt8}
    (heq : before ++ separator :: name = before' ++ separator' :: name')
    (hseparator : IsSeparator separator)
    (hseparator' : IsSeparator separator')
    (hname : ∀ byte ∈ name, ¬ IsSeparator byte)
    (hname' : ∀ byte ∈ name', ¬ IsSeparator byte) : before = before' := by
  rcases List.append_eq_append_iff.mp heq with
    ⟨between, rfl, hrest⟩ | ⟨between, rfl, hrest⟩
  · cases between with
    | nil => simp
    | cons first between =>
        rw [List.cons_append, List.cons.injEq] at hrest
        exact absurd hseparator' (hname separator' (by simp [hrest.2]))
  · cases between with
    | nil => simp
    | cons first between =>
        rw [List.cons_append, List.cons.injEq] at hrest
        exact absurd hseparator (hname' separator (by simp [hrest.2]))

/-! ## The call -/

section Call

variable {path buffer : List UInt8}

theorem nsGetExecutableDir_of_small (path : List UInt8)
    (hsmall : buffer.length ≤ 1) :
    (nsGetExecutableDir path buffer).1 = -1 ∧
      text (nsGetExecutableDir path buffer).2 = [] := by
  cases buffer with
  | nil => exact ⟨rfl, rfl⟩
  | cons first rest =>
      rw [List.length_cons] at hsmall
      have hroom : rest.length = 0 := by omega
      simp [nsGetExecutableDir, readlink, hroom, text]

/-- With room for a byte and a terminator the call always succeeds, on as
much of the path as fits. -/
theorem nsGetExecutableDir_of_large (path : List UInt8)
    (hlarge : 2 ≤ buffer.length) :
    let taken := path.take (buffer.length - 1)
    nsGetExecutableDir path buffer =
      (0, cutAtSeparator (text taken).length
        (taken ++ 0 :: buffer.drop (taken.length + 1))) := by
  intro taken
  have htaken : taken.length < buffer.length := by
    have hle : taken.length ≤ buffer.length - 1 :=
      List.length_take_le _ _
    omega
  have hnonempty : buffer ≠ [] := by
    rintro rfl
    simp at hlarge
  have hroom : buffer.length - 1 ≠ 0 := by omega
  have hwritten : (blit buffer 0 taken).set taken.length 0 =
      taken ++ 0 :: buffer.drop (taken.length + 1) := by
    rw [blit, List.take_zero, List.nil_append, Nat.zero_add,
      List.drop_eq_getElem_cons htaken,
      List.set_append_right _ _ le_rfl, Nat.sub_self, List.set_cons_zero]
  unfold nsGetExecutableDir
  rw [if_neg hnonempty, readlink, if_neg hroom]
  dsimp only
  rw [if_neg (not_le.mpr htaken), hwritten, text_append_zero]

/-- What was read is cut at its last separator. -/
theorem nsGetExecutableDir_cut (hlarge : 2 ≤ buffer.length)
    {before name : List UInt8} {separator : UInt8}
    (htext : text (path.take (buffer.length - 1)) =
      before ++ separator :: name)
    (hseparator : IsSeparator separator)
    (hname : ∀ byte ∈ name, ¬ IsSeparator byte) :
    ∃ rest, nsGetExecutableDir path buffer = (0, before ++ 0 :: rest) := by
  have hcall := nsGetExecutableDir_of_large path hlarge
  dsimp only at hcall
  generalize path.take (buffer.length - 1) = taken at hcall htext
  generalize buffer.drop (taken.length + 1) = beyond at hcall
  have hmemory : taken ++ 0 :: beyond =
      before ++ separator :: name ++
        (taken.dropWhile (· ≠ 0) ++ 0 :: beyond) := by
    rw [← htext, text, ← List.append_assoc,
      List.takeWhile_append_dropWhile]
  refine ⟨name ++ (taken.dropWhile (· ≠ 0) ++ 0 :: beyond), ?_⟩
  rw [hcall, htext, hmemory, cutAtSeparator_eq hseparator hname]

end Call

/-! ## Directories -/

theorem HoldsString.text_eq {buffer string : List UInt8}
    (hholds : HoldsString buffer string) : text buffer = string := by
  rcases hholds with ⟨hzero, rest, rfl⟩
  rw [text_append_zero, text_of_zero_notMem hzero]

theorem DenotesRoot.exists_cons {path : List UInt8}
    (hroot : DenotesRoot path) : ∃ rest, path = slash :: rest := by
  rcases hroot with ⟨components, hne, -, rfl⟩
  cases components with
  | nil => exact absurd rfl hne
  | cons first rest =>
      exact ⟨first ++ rest.flatMap fun component => slash :: component,
        by simp⟩

theorem denotesRoot_slash_cons {component : List UInt8}
    (hslash : slash ∉ component) :
    DenotesRoot (slash :: component) ↔
      component = [] ∨ component = [dot] ∨ component = [dot, dot] := by
  constructor
  · rintro ⟨components, hne, hroot, heq⟩
    cases components with
    | nil => exact absurd rfl hne
    | cons first rest =>
        rw [List.flatMap_cons, List.cons_append, List.cons.injEq] at heq
        have hrest : rest = [] := by
          cases rest with
          | nil => rfl
          | cons second rest =>
              refine absurd ?_ hslash
              rw [heq.2]
              simp
        rw [hrest, List.flatMap_nil, List.append_nil] at heq
        rw [heq.2]
        exact hroot first (by simp)
  · intro hcomponent
    exact ⟨[component], by simp, by simpa using hcomponent, by simp⟩

section Paths

variable {path before name : List UInt8}

theorem not_isSeparator_of_mem {bytes : List UInt8}
    (hslash : slash ∉ bytes) (hbackslash : backslash ∉ bytes) :
    ∀ byte ∈ bytes, ¬ IsSeparator byte := by
  rintro byte hbyte (rfl | rfl)
  · exact hslash hbyte
  · exact hbackslash hbyte

theorem text_append_slash (hbefore : 0 ∉ before) :
    text (before ++ slash :: name) = before ++ slash :: text name := by
  have hfirst : ∀ byte ∈ before, decide (byte ≠ 0) = true := by
    intro byte hbyte
    rw [decide_eq_true_eq]
    rintro rfl
    exact hbefore hbyte
  rw [text, List.takeWhile_append_of_pos hfirst]
  rfl

/-- Where the last separator is decides what the cut path means. -/
theorem isDirectoryOf_iff_cutAtSlash {cut last : List UInt8}
    {separator : UInt8} (htext : text path = cut ++ separator :: last)
    (hseparator : IsSeparator separator)
    (hlast : ∀ byte ∈ last, ¬ IsSeparator byte) :
    IsDirectoryOf path cut ↔ CutAtSlash path := by
  constructor
  · rintro ⟨before, name, rfl, hslash, hdirectory⟩
    refine ⟨before, name, rfl, hslash, ?_⟩
    by_cases hroot : before = []
    · subst hroot
      rw [if_pos rfl] at hdirectory ⊢
      rw [text_append_slash (by simp), List.nil_append] at htext
      rcases hdirectory.exists_cons with ⟨component, rfl⟩
      rw [List.cons_append, List.cons.injEq] at htext
      have hname : slash ∉ component ++ separator :: last := by
        rw [← htext.2]
        exact fun hmem => hslash (List.takeWhile_subset _ hmem)
      rw [List.mem_append, List.mem_cons, not_or, not_or] at hname
      have hbackslash : separator = backslash :=
        hseparator.resolve_left (Ne.symm hname.2.1)
      subst hbackslash
      exact ⟨component, last, htext.2,
        fun hmem => hlast backslash hmem (Or.inr rfl),
        (denotesRoot_slash_cons hname.1).mp hdirectory⟩
    · rw [if_neg hroot] at hdirectory ⊢
      subst hdirectory
      have hzero := zero_notMem_of_text_eq htext
      refine ⟨hzero, ?_⟩
      rw [text_append_slash hzero, List.append_cancel_left_eq,
        List.cons.injEq] at htext
      rw [htext.2]
      exact fun hmem => hlast backslash hmem (Or.inr rfl)
  · rintro ⟨before, name, rfl, hslash, hcut⟩
    refine ⟨before, name, rfl, hslash, ?_⟩
    have hname : slash ∉ text name := fun hmem =>
      hslash (List.takeWhile_subset _ hmem)
    by_cases hroot : before = []
    · subst hroot
      rw [if_pos rfl] at hcut ⊢
      rcases hcut with ⟨component, rest, hsplit, hrest, hcomponent⟩
      rw [hsplit, List.mem_append, List.mem_cons, not_or, not_or] at hname
      have hsame : cut = slash :: component := by
        refine last_separator_unique (htext.symm.trans ?_) hseparator
          (Or.inr rfl) hlast (not_isSeparator_of_mem hname.2.2 hrest)
        rw [text_append_slash (by simp), hsplit]
        rfl
      rw [hsame]
      exact (denotesRoot_slash_cons hname.1).mpr hcomponent
    · rw [if_neg hroot] at hcut ⊢
      exact last_separator_unique
        (htext.symm.trans (text_append_slash hcut.1)) hseparator
        (Or.inl rfl) hlast (not_isSeparator_of_mem hname hcut.2)

end Paths

theorem AbsolutePath.exists_separator (path : AbsolutePath) :
    ∃ byte ∈ text path.bytes, IsSeparator byte := by
  rcases path with ⟨bytes, habsolute⟩
  cases bytes with
  | nil => simp at habsolute
  | cons first rest =>
      have hfirst : first = slash := by simpa using habsolute
      subst hfirst
      exact ⟨slash, by simp [text, slash], Or.inl rfl⟩

/-- For a buffer with room, the call succeeds, so it is right only if the
path fits and its last separator is its last slash. -/
theorem rightOrRefused_of_large (path : AbsolutePath) {buffer : List UInt8}
    (hlarge : 2 ≤ buffer.length) :
    RightOrRefused path.bytes buffer.length
        (nsGetExecutableDir path.bytes buffer) ↔
      path.bytes.length < buffer.length ∧ CutAtSlash path.bytes := by
  by_cases hfits : path.bytes.length < buffer.length
  · have htaken : path.bytes.take (buffer.length - 1) = path.bytes :=
      List.take_of_length_le (by omega)
    rcases exists_last_separator path.exists_separator with
      ⟨cut, separator, last, htext, hseparator, hlast⟩
    rcases nsGetExecutableDir_cut hlarge
      ((congrArg text htaken).trans htext) hseparator hlast with
      ⟨rest, hcall⟩
    have hholds : HoldsString (cut ++ 0 :: rest) cut :=
      ⟨zero_notMem_of_text_eq htext, rest, rfl⟩
    have hiff := isDirectoryOf_iff_cutAtSlash htext hseparator hlast
    rw [hcall]
    constructor
    · intro hright
      rcases hright.right rfl with ⟨directory, hdirectory, hof⟩
      have hsame : directory = cut :=
        hdirectory.text_eq.symm.trans hholds.text_eq
      exact ⟨hfits, hiff.mp (hsame ▸ hof)⟩
    · rintro ⟨-, hcut⟩
      exact ⟨fun _ => ⟨cut, hholds, hiff.mpr hcut⟩, by omega⟩
  · have hstatus : (nsGetExecutableDir path.bytes buffer).1 = 0 := by
      rw [nsGetExecutableDir_of_large path.bytes hlarge]
    constructor
    · intro hright
      have hrefused := (hright.refused (by omega)).1
      omega
    · exact fun hcut => absurd hcut.1 hfits

/-- The call is right or refuses exactly when the buffer has no room at all,
or when the path fits and the scan stops at its last slash. -/
theorem executable_dir_right_iff (path : AbsolutePath)
    (buffer : List UInt8) :
    RightOrRefused path.bytes buffer.length
        (nsGetExecutableDir path.bytes buffer) ↔
      buffer.length ≤ 1 ∨
        path.bytes.length < buffer.length ∧ CutAtSlash path.bytes := by
  by_cases hsmall : buffer.length ≤ 1
  · rcases nsGetExecutableDir_of_small path.bytes hsmall with
      ⟨hstatus, htext⟩
    refine iff_of_true ⟨?_, fun _ => ⟨hstatus, htext⟩⟩ (Or.inl hsmall)
    rw [hstatus]
    exact fun hzero => absurd hzero (by decide)
  · rw [rightOrRefused_of_large path (by omega), or_iff_right hsmall]

-- an executable in the root, and one with a backslash in its name
example : (nsGetExecutableDir (literal "/srv") (List.replicate 8 7)).1 = 0 ∧
    text (nsGetExecutableDir (literal "/srv") (List.replicate 8 7)).2 =
      [] := by
  decide

example : text (nsGetExecutableDir
    (literal "/opt/ns/a" ++ backslash :: literal "b")
      (List.replicate 16 7)).2 = literal "/opt/ns/a" := by
  decide

/-- `/opt/ns/bin/srv`. -/
def serverPath : AbsolutePath := ⟨literal "/opt/ns/bin/srv", by decide⟩

/-- With 12 bytes the directory found is `/opt/ns`. -/
theorem executable_dir_not_always_right :
    ¬ ∀ (path : AbsolutePath) (buffer : List UInt8),
      RightOrRefused path.bytes buffer.length
        (nsGetExecutableDir path.bytes buffer) := by
  intro hall
  have hrefused := (hall serverPath (List.replicate 12 0)).refused
    (by decide)
  exact absurd hrefused.1 (by decide)

/-! ## The server's database -/

def databaseSuffix : List UInt8 := literal "/database/messages.db"

/-- `default_database_path` in the `main` of the server, or the path that is
used in its place; the buffer is `executable_dir` as it is passed. -/
def defaultDatabasePath (path executableDir : List UInt8) : List UInt8 :=
  let found := nsGetExecutableDir path executableDir
  if found.1 = 0 then
    let maxExec := 1024 - databaseSuffix.length - 1
    (snprintf 1024 [(text found.2).take maxExec, databaseSuffix]).1
  else literal "database/messages.db"

/-- The server never falls back: it opens a file below what the scan leaves
of the first 1023 bytes of the path, cut once more to leave room for the
name of the database. -/
theorem defaultDatabasePath_eq {path executableDir : List UInt8}
    (hsize : executableDir.length = 1024) {before last : List UInt8}
    {separator : UInt8}
    (htext : text (path.take 1023) = before ++ separator :: last)
    (hseparator : IsSeparator separator)
    (hlast : ∀ byte ∈ last, ¬ IsSeparator byte) :
    defaultDatabasePath path executableDir =
      before.take 1002 ++ databaseSuffix := by
  have hlarge : 2 ≤ executableDir.length := by omega
  have hroom : executableDir.length - 1 = 1023 := by omega
  rcases nsGetExecutableDir_cut hlarge (hroom ▸ htext) hseparator hlast
    with ⟨rest, hcall⟩
  have hzero := zero_notMem_of_text_eq htext
  have hsuffix : databaseSuffix.length = 21 := by decide
  have hexec : 1024 - databaseSuffix.length - 1 = 1002 := by decide
  have hshort := List.length_take_le 1002 before
  unfold defaultDatabasePath
  dsimp only
  rw [hcall, if_pos rfl, text_append_zero, text_of_zero_notMem hzero,
    hexec, snprintf_of_fits]
  · simp
  · simp only [List.flatten_cons, List.flatten_nil, List.length_append,
      List.length_nil, hsuffix]
    omega

end NodeSignal
