import LineFraming.Program
import Mathlib

/-!
# Settings that are read again

A store holds settings that are free of flaws, and keeps them so. Reading its file again takes three
steps: the bytes are read, they are parsed, and what they say is checked. The first step that fails
names the fault, and then nothing has changed; if none fails, all settings are replaced at once. So
there is no moment at which somebody who uses the store could find settings that nobody has checked.

That matters to those who measure indentation. They count a size of zero as one, so that they never
divide by zero; with settings from a store they never have to, and the sizes are those that were
configured.

Copies of a store have a path of their own and share the settings: what one of them reads, all of
them see. How a text is parsed does not matter here, so it is left open; that a file is a text at
all does, and means that its bytes are the UTF-8 of one.

## Main definitions

* `Text.utf8` — the bytes of a text
* `Settings.Sound` — settings without a flaw
* `Settings.Reloads` — what reading again comes to, one case for each kind of file
* `Settings.Copies`, `Settings.Copies.use` — a store with its copies, and what is done with them

## Main results

* `Text.ofUtf8?_eq_some_iff` — which bytes are a text
* `Settings.check_eq_ok_iff` — the check finds no flaw in sound settings only
* `Settings.reloads_iff` — reading again does what `Settings.Reloads` says
* `Settings.Store.reload_all_or_nothing` — what all copies see at any time
* `Program.sound_of_prepare` — a program starts with sound settings
-/

namespace LineFraming

/-! ### Bytes and texts -/

namespace Text

/-- The bytes of a text in UTF-8. -/
def utf8 (t : Text) : List UInt8 := (String.ofList t).toUTF8.data.toList

/-- The only text that some bytes stand for. -/
theorem ofUtf8?_eq_some_iff {bytes : List UInt8} {t : Text} :
    ofUtf8? bytes = some t ↔ bytes = utf8 t := by
  rw [ofUtf8?, Option.map_eq_some_iff, String.fromUTF8?, utf8]
  constructor
  · rintro ⟨s, hs, rfl⟩
    split at hs
    · cases hs
      rw [String.ofList_toList]
      rfl
    · cases hs
  · rintro rfl
    have hvalid : ByteArray.IsValidUTF8 ⟨(utf8 t).toArray⟩ := (String.ofList t).isValidUTF8
    exact ⟨String.ofList t, dif_pos hvalid, String.toList_ofList⟩

@[simp] theorem ofUtf8?_utf8 (t : Text) : ofUtf8? (utf8 t) = some t := ofUtf8?_eq_some_iff.mpr rfl

theorem ofUtf8?_eq_none_iff {bytes : List UInt8} :
    ofUtf8? bytes = none ↔ ∀ t, bytes ≠ utf8 t := by
  rw [Option.eq_none_iff_forall_ne_some]
  exact forall_congr' fun _ => not_congr ofUtf8?_eq_some_iff

end Text

namespace Settings

/-! ### Sound settings -/

/-- Settings without a flaw: both sizes are positive, and a worker is named. -/
structure Sound (s : Settings) : Prop where
  indentSize_pos : 0 < s.framing.indentSize
  tabSize_pos : 0 < s.framing.tabSize
  command : Text.isBlank s.worker.command = false

/-- The check finds all flaws. -/
theorem check_eq_ok_iff {s : Settings} : s.check = .ok () ↔ s.Sound := by
  unfold check
  split_ifs with hindent htab hcommand
  · exact iff_of_false (by simp) fun h => absurd hindent (Nat.ne_of_gt h.indentSize_pos)
  · exact iff_of_false (by simp) fun h => absurd htab (Nat.ne_of_gt h.tabSize_pos)
  · exact iff_of_false (by simp) fun h => absurd h.command (by simp [hcommand])
  · refine iff_of_true rfl ⟨Nat.pos_of_ne_zero hindent, Nat.pos_of_ne_zero htab, ?_⟩
    simpa using hcommand

/-- The defaults pass their own check. -/
theorem sound_default : Sound {} := ⟨by decide, by decide, by decide⟩

/-- With sound settings, indentation is measured with the sizes that are configured. -/
theorem Sound.indentation_eq {s : Settings} (h : s.Sound) :
    s.indentation.unit = s.framing.indentSize ∧ s.indentation.tabStop = s.framing.tabSize :=
  ⟨Nat.max_eq_left h.indentSize_pos, Nat.max_eq_left h.tabSize_pos⟩

/-! ### One file -/

/-- Settings in a text are those in its entries. -/
theorem ofToml?_of_read {t : Text} {entries : List (Text × Toml.Value)} {s : Settings}
    (hr : Toml.read t = some entries) (hs : ofEntries? entries = some s) :
    ofToml? t = some s := by
  rw [ofToml?, hr]
  exact hs

/-- Sound settings in a text are taken as they are. -/
theorem loadWith_utf8 {parse : Text → Option Settings} {t : Text} {s : Settings}
    (hp : parse t = some s) (hc : s.check = .ok ()) :
    loadWith parse (.bytes (Text.utf8 t)) = .ok s := by
  simp [loadWith, FileState.text?, hp, hc]

/-- What reading the settings again comes to, where they were `old`: the outcome, and the settings
from then on. -/
inductive Reloads (parse : Text → Option Settings) (old : Settings) :
    FileState → Except Fault Unit → Settings → Prop
  /-- There is no file: the defaults. -/
  | absent : Reloads parse old .absent (.ok ()) {}
  | directory : Reloads parse old .directory (.error (.unreadable .isDirectory)) old
  /-- The bytes are no text. -/
  | notUtf8 {bytes : List UInt8} (h : ∀ t, bytes ≠ Text.utf8 t) :
    Reloads parse old (.bytes bytes) (.error (.unreadable .notUtf8)) old
  /-- The text cannot be parsed. -/
  | malformed {t : Text} (h : parse t = none) :
    Reloads parse old (.bytes (Text.utf8 t)) (.error .malformed) old
  /-- What the text says does not pass the check. -/
  | invalid {t : Text} {s : Settings} {flaw : Flaw} (hp : parse t = some s)
    (hc : s.check = .error flaw) :
    Reloads parse old (.bytes (Text.utf8 t)) (.error (.invalid flaw)) old
  /-- All settings are what the text says. -/
  | valid {t : Text} {s : Settings} (hp : parse t = some s) (hc : s.check = .ok ()) :
    Reloads parse old (.bytes (Text.utf8 t)) (.ok ()) s

section Reloads

variable {parse : Text → Option Settings} {old new : Settings} {file : FileState}
  {r : Except Fault Unit}

/-- Settings stay sound, whatever the file is. -/
theorem Reloads.sound (h : Reloads parse old file r new) (hs : old.Sound) : new.Sound := by
  cases h with
  | absent => exact sound_default
  | valid _ hc => exact check_eq_ok_iff.mp hc
  | directory => exact hs
  | notUtf8 _ => exact hs
  | malformed _ => exact hs
  | invalid _ _ => exact hs

/-- One of the cases applies to every file. -/
theorem reloads_reloadWith (parse : Text → Option Settings) (s : Store) (file : FileState) :
    Reloads parse s.settings file (s.reloadWith parse file).1
      (s.reloadWith parse file).2.settings := by
  cases file with
  | absent => exact .absent
  | directory => exact .directory
  | bytes content =>
    cases hutf8 : Text.ofUtf8? content with
    | none =>
      simp only [Store.reloadWith, loadWith, FileState.text?, hutf8]
      exact .notUtf8 (Text.ofUtf8?_eq_none_iff.mp hutf8)
    | some t =>
      obtain rfl := Text.ofUtf8?_eq_some_iff.mp hutf8
      cases hparse : parse t with
      | none =>
        simp only [Store.reloadWith, loadWith, FileState.text?, hutf8, hparse]
        exact .malformed hparse
      | some parsed =>
        cases hcheck : parsed.check with
        | error flaw =>
          simp only [Store.reloadWith, loadWith, FileState.text?, hutf8, hparse, hcheck]
          exact .invalid hparse hcheck
        | ok _ =>
          simp only [Store.reloadWith, loadWith, FileState.text?, hutf8, hparse, hcheck]
          exact .valid hparse hcheck

/-- **Reading again** does what the cases say, and no more than one of them applies to a file. -/
theorem reloads_iff {s : Store} :
    Reloads parse s.settings file r new ↔
      s.reloadWith parse file = (r, { s with settings := new }) := by
  constructor
  · intro h
    cases h with
    | absent => rfl
    | directory => rfl
    | notUtf8 h =>
      simp [Store.reloadWith, loadWith, FileState.text?, Text.ofUtf8?_eq_none_iff.mpr h]
    | malformed h => simp [Store.reloadWith, loadWith, FileState.text?, h]
    | invalid hp hc => simp [Store.reloadWith, loadWith, FileState.text?, hp, hc]
    | valid hp hc => simp [Store.reloadWith, loadWith_utf8 hp hc]
  · intro h
    have hreloads := reloads_reloadWith parse s file
    rwa [h] at hreloads

/-- Of a store, reading again changes the settings only. -/
theorem Store.eq_reloadWith (s : Store) :
    (s.reloadWith parse file).2 =
      { s with settings := (s.reloadWith parse file).2.settings } := by
  rw [reloadWith]
  split <;> rfl

end Reloads

/-! ### A store and its copies -/

/-- A store and the copies that were made of it, the store first. They share the settings, and each
has its path. -/
structure Copies where
  settings : Settings
  paths : List Text

namespace Copies

/-- A store without copies. -/
def of (s : Store) : Copies := { settings := s.settings, paths := [s.path] }

/-- What the holder of a copy has in hand. -/
def store? (c : Copies) (k : Nat) : Option Store :=
  c.paths[k]?.map fun path => { settings := c.settings, path := path }

/-- What is done with a store and its copies. -/
inductive Use where
  /-- One more copy is made of one of them. -/
  | copy (k : Nat)
  /-- One of them is read again, where this is found at all paths. -/
  | reload (k : Nat) (files : Text → FileState)

/-- The store and its copies behind a use. -/
def use (parse : Text → Option Settings) (c : Copies) : Use → Copies
  | .copy k => { c with paths := c.paths ++ c.paths[k]?.toList }
  | .reload k files =>
    match c.store? k with
    | some s => { c with settings := (s.reloadWith parse (files s.path)).2.settings }
    | none => c

/-- All of them have the path that the store had, and the settings are sound. -/
structure Kept (path : Text) (c : Copies) : Prop where
  sound : c.settings.Sound
  paths : ∀ p ∈ c.paths, p = path

variable {parse : Text → Option Settings} {path : Text} {c : Copies}

theorem kept_of {s : Store} (h : s.settings.Sound) : Kept s.path (of s) where
  sound := h
  paths _ hp := List.mem_singleton.mp hp

theorem store?_eq_some_iff {k : Nat} {s : Store} :
    c.store? k = some s ↔ c.paths[k]? = some s.path ∧ s.settings = c.settings := by
  rw [store?, Option.map_eq_some_iff]
  constructor
  · rintro ⟨p, hp, rfl⟩
    exact ⟨hp, rfl⟩
  · rintro ⟨hp, hs⟩
    exact ⟨s.path, hp, by rw [← hs]⟩

/-- The settings behind a use of one that is there. -/
theorem use_reload {k : Nat} {s : Store} (h : c.store? k = some s) (files : Text → FileState) :
    c.use parse (.reload k files) =
      { c with settings := (s.reloadWith parse (files s.path)).2.settings } := by
  rw [use, h]

/-- **One use** leaves sound settings and the paths as they are. -/
theorem Kept.use (h : c.Kept path) (u : Use) : (c.use parse u).Kept path := by
  cases u with
  | copy k =>
    refine ⟨h.sound, fun p hp => ?_⟩
    rcases List.mem_append.mp hp with hp | hp
    · exact h.paths p hp
    · exact h.paths p (List.mem_of_getElem? (Option.mem_toList.mp hp))
  | reload k files =>
    cases hs : c.store? k with
    | none =>
      rw [Copies.use, hs]
      exact h
    | some s =>
      rw [use_reload hs]
      have hold : s.settings.Sound := (store?_eq_some_iff.mp hs).2 ▸ h.sound
      exact ⟨(reloads_reloadWith parse s _).sound hold, h.paths⟩

theorem Kept.uses (h : c.Kept path) (us : List Use) :
    (us.foldl (Copies.use parse) c).Kept path := by
  induction us generalizing c with
  | nil => exact h
  | cons u us ih => exact ih (h.use u)

end Copies

/-- **Reading again is all or nothing.** However texts are parsed, and whatever is done with a store
and its copies, if the store was made with settings that pass the check: all of them hold the same
settings, which pass the check, and indentation is measured with the sizes that these say. When any
of them is read again, whatever the file is by then, exactly one case of `Reloads` applies to it; it
tells the outcome, and the settings that all of them hold from then on. -/
theorem Store.reload_all_or_nothing (parse : Text → Option Settings) {s : Store}
    (h : s.settings.check = .ok ()) (uses : List Copies.Use) :
    let c := uses.foldl (Copies.use parse) (.of s)
    ∀ k t, c.store? k = some t →
      (t.settings = c.settings ∧ t.path = s.path) ∧
      (t.settings.check = .ok () ∧
        t.settings.indentation.unit = t.settings.framing.indentSize ∧
        t.settings.indentation.tabStop = t.settings.framing.tabSize) ∧
      ∀ files r new, Reloads parse t.settings (files s.path) r new ↔
        (t.reloadWith parse (files t.path)).1 = r ∧
          (c.use parse (.reload k files)).settings = new := by
  intro c k t ht
  have hkept : c.Kept s.path := (Copies.kept_of (check_eq_ok_iff.mp h)).uses uses
  obtain ⟨hp, hsettings⟩ := Copies.store?_eq_some_iff.mp ht
  have hpath : t.path = s.path := hkept.paths _ (List.mem_of_getElem? hp)
  have hsound : t.settings.Sound := hsettings ▸ hkept.sound
  refine ⟨⟨hsettings, hpath⟩, ⟨check_eq_ok_iff.mpr hsound, hsound.indentation_eq⟩,
    fun files r new => ?_⟩
  rw [← hpath, reloads_iff, Copies.use_reload ht, Prod.ext_iff]
  refine and_congr_right fun _ => ⟨fun hnew => congrArg Store.settings hnew, fun hnew => ?_⟩
  rw [← hnew]
  exact t.eq_reloadWith

/-- Two copies: what one of them has read stays, as the other one finds a tab size of zero. -/
theorem Store.reload_all_or_nothing_flawedTabs :
    let tabs : Text := "[console]\nuse_tabs = true\n".toList
    let flawed : Text := "[console]\ntab_size = 0\n".toList
    let s : Store := { path := "config.toml".toList }
    let t : Store := { s with settings := { framing := { useTabs := true } } }
    let c := [.copy 0, .reload 1 fun _ => .bytes (Text.utf8 tabs)].foldl (Copies.use ofToml?) (.of s)
    s.settings.check = .ok () ∧ c.store? 0 = some t ∧
      (t.reloadWith ofToml? (.bytes (Text.utf8 flawed))).1 = .error (.invalid .zeroTabSize) ∧
      (c.use ofToml? (.reload 0 fun _ => .bytes (Text.utf8 flawed))).settings = t.settings := by
  intro tabs flawed s t c
  have hcheck : s.settings.check = .ok () := check_eq_ok_iff.mpr sound_default
  have hread : Toml.read "[console]\nuse_tabs = true\n".toList =
      some [("console".toList, .table [("use_tabs".toList, .boolean true)])] := by cbv
  have htabs : ofToml? tabs = some t.settings := ofToml?_of_read hread (by decide)
  have hflawedRead : Toml.read "[console]\ntab_size = 0\n".toList =
      some [("console".toList, .table [("tab_size".toList, .integer 0)])] := by cbv
  have hflawed : ofToml? flawed = some { framing := { tabSize := 0 } } :=
    ofToml?_of_read hflawedRead (by decide)
  -- The copy reads the tabs, and so the store holds them.
  have hloaded : s.reloadWith ofToml? (.bytes (Text.utf8 tabs)) = (.ok (), t) :=
    reloads_iff.mp (.valid htabs (check_eq_ok_iff.mpr ⟨by decide, by decide, by decide⟩))
  have hcopy : ((Copies.of s).use ofToml? (.copy 0)).store? 1 = some s := rfl
  have hc : c = { settings := t.settings, paths := [s.path, s.path] } :=
    (Copies.use_reload hcopy fun _ => .bytes (Text.utf8 tabs)).trans (by rw [hloaded]; rfl)
  have hstore : c.store? 0 = some t := by
    rw [hc]
    rfl
  obtain ⟨-, -, hreload⟩ := Store.reload_all_or_nothing ofToml? hcheck
    [.copy 0, .reload 1 fun _ => .bytes (Text.utf8 tabs)] 0 t hstore
  have hcase : Reloads ofToml? t.settings (.bytes (Text.utf8 flawed))
      (.error (.invalid .zeroTabSize)) t.settings := .invalid hflawed rfl
  exact ⟨hcheck, hstore, (hreload (fun _ => .bytes (Text.utf8 flawed)) _ _).mp hcase⟩

end Settings

namespace Program

/-- The settings that a program starts with are sound, since they are checked once more behind the
command line. -/
theorem sound_of_prepare {arguments : List Text} {defaultPath : Text}
    {fileAt : Text → Settings.FileState} {s : Settings}
    (h : prepare arguments defaultPath fileAt = .ok s) : s.Sound := by
  rw [prepare] at h
  cases ha : Arguments.parse arguments with
  | error refusal => simp [ha, Except.mapError, bind, Except.bind] at h
  | ok a =>
    cases hf : Settings.load (fileAt (a.settingsPath defaultPath)) with
    | error fault => simp [ha, hf, Except.mapError, bind, Except.bind] at h
    | ok loaded =>
      cases hc : (a.apply loaded).check with
      | error flaw => simp [ha, hf, hc, Except.mapError, bind, Except.bind] at h
      | ok _ =>
        have hs : a.apply loaded = s := by
          simpa [ha, hf, hc, Except.mapError, bind, Except.bind, pure, Except.pure] using h
        exact Settings.check_eq_ok_iff.mp (hs ▸ hc)

end Program

end LineFraming
