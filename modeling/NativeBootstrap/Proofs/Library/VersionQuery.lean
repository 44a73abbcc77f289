import NativeBootstrap.Proofs.Library.NamedLibraries
import NativeBootstrap.Proofs.Text.Lossy

/-!
# What a version query tells

The core answers a version query with two pointers: to a name and to a version, each to any bytes or
null. `IsNativeText` says which text such bytes stand for: the one reading of the bytes before the
first zero byte. Of what can go wrong, a symbol that the core does not export comes first, and then a
version that is null; the name can only be missing from the text.

The main statement is `version_query_tells_answer`. It is about all that can be loaded for a plan
under a root, with any loader.
-/

set_option autoImplicit false

namespace NativeBootstrap

/-! ## Texts of native code -/

/-- Whether bytes of native code stand for a text: it is what the bytes before the first zero byte
show, or all of them if there is none. -/
def IsNativeText (bytes : Bytes) (text : String) : Prop :=
  ∃ part rest, bytes = part ++ rest ∧ 0 ∉ part ∧ (rest = [] ∨ ∃ more, rest = 0 :: more) ∧
    Utf8.Reads part text.toList

/-- The part before the first zero byte is where the text is cut. -/
theorem takeWhile_ne_zero {part rest : Bytes} (hpart : 0 ∉ part)
    (hrest : rest = [] ∨ ∃ more, rest = 0 :: more) : (part ++ rest).takeWhile (· != 0) = part := by
  have hbefore : ∀ byte ∈ part, (byte != 0) = true := by
    intro byte hbyte
    rw [bne_iff_ne]
    rintro rfl
    exact hpart hbyte
  rw [List.takeWhile_append_of_pos hbefore]
  rcases hrest with rfl | ⟨more, rfl⟩
  · rw [List.takeWhile_nil, List.append_nil]
  · rw [List.takeWhile_cons_of_neg (by decide), List.append_nil]

/-- Bytes of native code stand for one text. -/
theorem isNativeText_iff {bytes : Bytes} {text : String} :
    IsNativeText bytes text ↔ text = nativeString bytes := by
  unfold nativeString
  rw [← Utf8.reads_iff]
  constructor
  · rintro ⟨part, rest, rfl, hpart, hrest, hread⟩
    rw [takeWhile_ne_zero hpart hrest]
    exact hread
  · intro hread
    refine ⟨_, bytes.dropWhile (· != 0), List.takeWhile_append_dropWhile.symm, ?_, ?_, hread⟩
    · intro hzero
      have hne := List.all_eq_true.1 List.all_takeWhile 0 hzero
      exact absurd hne (by decide)
    · cases hrest : bytes.dropWhile (· != 0) with
      | nil => exact Or.inl rfl
      | cons byte more =>
          have hhead := List.head_dropWhile_not (· != 0) (l := bytes) (by simp [hrest])
          simp only [hrest, List.head_cons, bne_eq_false_iff_eq] at hhead
          exact Or.inr ⟨more, by rw [hhead]⟩

/-- A text without a zero character stands for itself. -/
theorem isNativeText_encode {text : String} (h : '\x00' ∉ text.toList) :
    IsNativeText (Utf8.encode text) text := by
  have hzero : 0 ∉ Utf8.encode text := by
    have hcode : (0 : UInt8) = Utf8.code '\x00' := rfl
    rw [hcode, Utf8.code_mem_encode_iff (by decide)]
    exact h
  exact ⟨Utf8.encode text, [], (List.append_nil _).symm, hzero, Or.inl rfl, Utf8.reads_encode text⟩

/-! ## Symbols and answers -/

theorem Image.hasSymbol_iff {image : Image} {symbol : String} (hne : symbol ≠ "") :
    image.hasSymbol symbol = true ↔ symbol ∈ image.exports := by
  unfold hasSymbol
  rw [Bool.and_eq_true, bne_iff_ne, List.contains_iff_mem]
  exact and_iff_right hne

/-- What an answer says: nothing without a version, and with one the texts of both. -/
theorem VersionAnswer.read_cases (answer : VersionAnswer) :
    (answer.version = none ∧ answer.read = .error (.nullResult EntryPoint.version.symbol)) ∨
    ∃ bytes v, answer.version = some bytes ∧ answer.read = .ok v ∧
      (answer.name = none → v.name = "") ∧
      (∀ named, answer.name = some named → IsNativeText named v.name) ∧
      IsNativeText bytes v.version := by
  unfold read
  cases hversion : answer.version with
  | none => exact Or.inl ⟨rfl, rfl⟩
  | some bytes =>
      refine Or.inr ⟨bytes, _, rfl, rfl, ?_, ?_, isNativeText_iff.2 rfl⟩
      · intro hname
        rw [hname]
        rfl
      · intro named hname
        rw [hname]
        exact isNativeText_iff.2 rfl

/-- A version query fails without the symbol, and tells the core's answer with it. -/
theorem Loaded.version_cases {loaded : Loaded} {core : Library}
    (h : loaded.get coreLibrary = .ok core) :
    (EntryPoint.version.symbol ∉ core.image.exports ∧
      loaded.version.1 = .error (.missingSymbol core.path EntryPoint.version.symbol)) ∨
    (EntryPoint.version.symbol ∈ core.image.exports ∧
      loaded.version.1 = core.image.answer.read) := by
  have hne : EntryPoint.version.symbol ≠ "" := by decide
  rw [Loaded.version_of_get h]
  by_cases hmem : EntryPoint.version.symbol ∈ core.image.exports
  · rw [if_pos ((Image.hasSymbol_iff hne).2 hmem)]
    exact Or.inr ⟨hmem, rfl⟩
  · rw [if_neg (mt (Image.hasSymbol_iff hne).1 hmem)]
    exact Or.inl ⟨hmem, rfl⟩

/-! ## Main statement -/

/-- **A version query tells what the core answers.** Let any loader have loaded a plan under a root:
a core and a wrapper. The query fails for want of a symbol exactly if the core does not export it,
whatever the wrapper exports. Otherwise it fails for a null exactly if the version is one, whatever the
name is. Otherwise it tells a version, and a name, which is empty if it is null: both are the texts
that the bytes stand for, and they are displayed with a dash between them.

Bytes stand for exactly one text, and those of a text without a zero character for that text. The
lossy reading that gives it is the one in which each character is shown as it is, in order, and each
maximal ill-formed subpart as one U+FFFD; it gives back every text from its own bytes. -/
theorem version_query_tells_answer :
    (∀ (loader : Loader) (w : World) (earlier : List Path) (root separator : String)
      (variant : Variant) (loaded : Loaded),
      (load loader w earlier (.underRoot root variant separator)).1 = .ok loaded →
      ∃ core wrapper, loaded.libraries = [core, wrapper] ∧
        (∀ library symbol, loaded.version.1 = .error (.missingSymbol library symbol) ↔
          "clogger_lib_version" ∉ core.image.exports ∧
            library = core.path ∧ symbol = "clogger_lib_version") ∧
        (∀ function, loaded.version.1 = .error (.nullResult function) ↔
          "clogger_lib_version" ∈ core.image.exports ∧ core.image.answer.version = none ∧
            function = "clogger_lib_version") ∧
        ∀ bytes, "clogger_lib_version" ∈ core.image.exports →
          core.image.answer.version = some bytes →
          ∃ v, loaded.version.1 = .ok v ∧
            (core.image.answer.name = none → v.name = "") ∧
            (∀ named, core.image.answer.name = some named → IsNativeText named v.name) ∧
            IsNativeText bytes v.version ∧ v.display = v.name ++ "-" ++ v.version) ∧
    (∀ bytes, ∃ text, IsNativeText bytes text ∧ ∀ other, IsNativeText bytes other → other = text) ∧
    (∀ text : String, '\x00' ∉ text.toList → IsNativeText (Utf8.encode text) text) ∧
    (∀ (bytes : Bytes) (text : String), Utf8.Reads bytes text.toList ↔ text = Utf8.lossy bytes) ∧
    ∀ text : String, Utf8.lossy (Utf8.encode text) = text := by
  refine ⟨?_, ?_, fun _ => isNativeText_encode, fun _ _ => Utf8.reads_iff, Utf8.lossy_encode⟩
  · intro loader w earlier root separator variant loaded hload
    obtain ⟨-, core, wrapper, -, hlibraries, ⟨hget, -⟩, -, -⟩ := exists_get_underRoot hload
    have hsymbol : EntryPoint.version.symbol = "clogger_lib_version" := rfl
    refine ⟨core, wrapper, hlibraries, ?_⟩
    rcases Loaded.version_cases hget with ⟨hmissing, hversion⟩ | ⟨hmem, hversion⟩
    · rw [hsymbol] at hmissing hversion
      rw [hversion]
      refine ⟨?_, ?_, ?_⟩
      · intro library symbol
        simp [hmissing, eq_comm]
      · intro function
        simp [hmissing]
      · intro bytes hmem
        exact absurd hmem hmissing
    · rw [hsymbol] at hmem
      rw [hversion]
      rcases core.image.answer.read_cases with
        ⟨hnull, hread⟩ | ⟨bytes, v, hsome, hread, hunnamed, hnamed, htext⟩
      · rw [hread, hnull, hsymbol]
        refine ⟨?_, ?_, ?_⟩
        · intro library symbol
          simp [hmem]
        · intro function
          simp [hmem, eq_comm]
        · intro bytes _ hsome
          cases hsome
      · rw [hread, hsome]
        refine ⟨?_, ?_, ?_⟩
        · intro library symbol
          simp [hmem]
        · intro function
          simp
        · intro bytes' _ hsome'
          obtain rfl := Option.some.inj hsome'
          exact ⟨v, rfl, hunnamed, hnamed, htext, rfl⟩
  · intro bytes
    exact ⟨nativeString bytes, isNativeText_iff.2 rfl, fun other => isNativeText_iff.1⟩

/-- An image that answers with a stray byte and a zero byte in its name, and with a version in which
two characters are cut short. -/
def oddImage : Image :=
  ⟨["clogger_lib_version"], some [0x63, 0xFF, 0x6C, 0x00, 0x41],
    some [0x31, 0xE2, 0x82, 0x2E, 0xF0]⟩

/-- An image that exports nothing. -/
def silentImage : Image := ⟨[], none, none⟩

/-- Loads a core and a wrapper for the small installation. -/
def loadPair (core wrapper : Image) : Except BootstrapError Loaded :=
  (load (.scripted [.give core, .give wrapper]) installedWorld []
    (.underRoot "/my app" ⟨.win64, .release⟩ "/")).1

theorem exists_loadPair (core wrapper : Image) :
    ∃ loaded, loadPair core wrapper = .ok loaded ∧
      loaded.libraries.map Library.image = [core, wrapper] := by
  have hdir : installedWorld.isDirectory
      (LoadPlan.underRoot "/my app" ⟨.win64, .release⟩ "/").libsDir = true := by decide +kernel
  unfold loadPair
  rw [load_of_directory _ _ hdir]
  exact ⟨_, rfl, rfl⟩

/-- The odd image as the core, and as the wrapper of a core that exports nothing. -/
theorem version_query_tells_answer_of_odd_image :
    (∃ loaded v, loadPair oddImage silentImage = .ok loaded ∧
      loaded.version.1 = .ok v ∧ v.display = "c\uFFFDl-1\uFFFD.\uFFFD") ∧
    ∃ loaded library, loadPair silentImage oddImage = .ok loaded ∧
      loaded.version.1 = .error (.missingSymbol library "clogger_lib_version") := by
  obtain ⟨hquery, -⟩ := version_query_tells_answer
  refine ⟨?_, ?_⟩
  · obtain ⟨loaded, hload, himages⟩ := exists_loadPair oddImage silentImage
    obtain ⟨core, wrapper, hlibraries, -, -, htold⟩ := hquery _ _ _ _ _ _ _ hload
    rw [hlibraries] at himages
    rw [(List.cons.inj himages).1] at htold
    obtain ⟨v, hversion, -, hnamed, htext, hdisplay⟩ := htold _ (by decide) rfl
    refine ⟨loaded, v, hload, hversion, ?_⟩
    rw [hdisplay, isNativeText_iff.1 (hnamed _ rfl), isNativeText_iff.1 htext]
    decide +kernel
  · obtain ⟨loaded, hload, himages⟩ := exists_loadPair silentImage oddImage
    obtain ⟨core, wrapper, hlibraries, hmissing, -, -⟩ := hquery _ _ _ _ _ _ _ hload
    rw [hlibraries] at himages
    rw [(List.cons.inj himages).1] at hmissing
    exact ⟨loaded, core.path, hload, (hmissing _ _).2 ⟨by decide, rfl, rfl⟩⟩

end NativeBootstrap
