import Mathlib.Data.List.Forall2
import Scribe.Document.StructFile
import Scribe.Proofs.Source.Literal
import Scribe.Proofs.Source.Spelling
import Scribe.Proofs.Text.Escaped

/-!
# Reading a field tag back

A field tag is a key and a quoted value, and the value is a list of settings.  Two readers undo it:
the one of tags, which unquotes the value, and the one of settings, which cuts it at semicolons
(`readSettings`).  `settings` lists what the column has to say.

The first reader needs two escapes only, that of the backslash and that of the quote, and finds
exactly the settings with their semicolons escaped, whatever the texts of the column contain
(`StandsFor`, `standsFor_tagValue`).  A tag can also stand between the backquotes of the file that it
is written into (`fieldTag_standsFor`).  Cutting then gives the settings themselves, except that a
setting which ends in a backslash absorbs the next one: the backslash is written as it is, and so
hides the semicolon that ends the setting.  A name or a default can do that, since nothing follows
their text; a comment cannot, since a quote does.
-/

namespace Scribe.Document

open Scribe.Text Scribe.Source Scribe.Schema

/-! ## What a column has to say -/

/-- The text of a column in a setting: on one line, and without backquotes. -/
def settingText (s : List Char) : List Char :=
  (flatten s).map fun c => if c = '\x60' then '\'' else c

/-- The settings of a column, with `write` for the texts in them. -/
def settingsWith (write : List Char → List Char) (c : Column) : List (List Char) :=
  ["column:".toList ++ write c.name.toList] ++
  (if c.isPrimaryKey then ["primary_key".toList] else []) ++
  (if c.isAutoIncrement then ["AUTO_INCREMENT".toList] else []) ++
  (if c.nullable then [] else ["NOT NULL".toList]) ++
  (match c.default with
    | none => []
    | some value =>
      if value = "" then ["default:''".toList]
      else ["default:".toList ++ write value.toList]) ++
  (if c.commentText = "" then []
    else ["comment:'".toList ++ write c.commentText.toList ++ "'".toList])

/-- What a column has to say. -/
def settings (c : Column) : List (List Char) := settingsWith settingText c

/-! ## The readers -/

/-- The value under a key in a tag that is one key and one quoted value. -/
def tagLookup? (key tag : List Char) : Option (List Char) :=
  match tag.span (fun c => c ≠ ':' && c ≠ '"' && !isBlank c) with
  | (name, ':' :: literal) => if name = key then readLiteral literal else none
  | _ => none

/-- The settings in a tag: the unquoted value, cut at the semicolons that no backslash directly
precedes, each part without the backslashes before the semicolons in it. -/
def readSettings (tag : List Char) : Option (List (List Char)) :=
  (tagLookup? "gorm".toList tag).map fun value => (parts ';' value).map (dropEscapes ';')

/-! ## The escapes of a tag -/

/-- The inside of a quoted value and the text that it stands for: a backslash pairs with the
character after it, which is a backslash or a quote, and no quote stands unpaired. -/
inductive StandsFor : List Char → List Char → Prop
  | nil : StandsFor [] []
  | escaped {c : Char} {a s : List Char} :
      c = '\\' ∨ c = '"' → StandsFor a s → StandsFor ('\\' :: c :: a) (c :: s)
  | plain {c : Char} {a s : List Char} :
      c ≠ '\\' → c ≠ '"' → StandsFor a s → StandsFor (c :: a) (c :: s)

namespace StandsFor

variable {a b s t : List Char}

theorem append (ha : StandsFor a s) (hb : StandsFor b t) : StandsFor (a ++ b) (s ++ t) := by
  induction ha with
  | nil => exact hb
  | escaped hc _ ih => exact .escaped hc ih
  | plain hslash hquote _ ih => exact .plain hslash hquote ih

/-- Text without backslashes and quotes stands for itself. -/
theorem self (h : ∀ c ∈ s, c ≠ '\\' ∧ c ≠ '"') : StandsFor s s := by
  induction s with
  | nil => exact .nil
  | cons c s ih =>
    obtain ⟨⟨hslash, hquote⟩, hs⟩ := List.forall_mem_cons.1 h
    exact .plain hslash hquote (ih hs)

theorem flatMap {f g : Char → List Char} (h : ∀ c ∈ s, StandsFor (f c) (g c)) :
    StandsFor (s.flatMap f) (s.flatMap g) := by
  induction s with
  | nil => exact .nil
  | cons c s ih =>
    obtain ⟨hc, hs⟩ := List.forall_mem_cons.1 h
    rw [List.flatMap_cons, List.flatMap_cons]
    exact hc.append (ih hs)

/-- On one line, the two escapes are among those of every string literal. -/
theorem unquote_eq (h : StandsFor a s) (hn : '\n' ∉ a) : unquote a = some s := by
  induction h with
  | nil => rfl
  | @escaped c a s hc _ ih =>
    rw [List.mem_cons, List.mem_cons, not_or, not_or] at hn
    have hmeaning : escapeMeaning? c = some c := by
      rcases hc with rfl | rfl <;> rfl
    rw [unquote_escape hmeaning, ih hn.2.2]
    rfl
  | plain hslash hquote _ ih =>
    rw [List.mem_cons, not_or] at hn
    rw [unquote_cons hslash hquote (Ne.symm hn.1), ih hn.2]
    rfl

end StandsFor

theorem standsFor_tagChar (c : Char) :
    StandsFor (tagChar c) (escape ';' [if c = '\x60' then '\'' else c]) := by
  unfold tagChar
  split
  · rename_i h
    subst h
    exact .escaped (.inl rfl) .nil
  split
  · rename_i h
    subst h
    exact .escaped (.inr rfl) .nil
  split
  · rename_i h
    subst h
    -- The backslash of the escape is itself escaped.
    exact .escaped (.inl rfl) (.plain (by decide) (by decide) .nil)
  split
  · rename_i h
    subst h
    exact .plain (by decide) (by decide) .nil
  · rename_i hb hq hs hr
    rw [escape_cons_of_ne hs, escape_nil]
    exact .plain hb hq .nil

/-- The text of a column in a setting, with a backslash before each semicolon. -/
def escapedText (s : List Char) : List Char := escape ';' (settingText s)

/-- **What a tag says of a text**: the text itself, with its semicolons escaped. -/
theorem standsFor_tagValue (s : List Char) : StandsFor (tagValue s) (escapedText s) := by
  have hmap : escapedText s =
      (flatten s).flatMap fun c => escape ';' [if c = '\x60' then '\'' else c] := by
    simp [escapedText, escape, settingText, List.flatMap_map]
  rw [hmap]
  exact .flatMap fun c _ => standsFor_tagChar c

/-! ## Settings -/

/-- The settings without a text of the column in them. -/
def markers : List (List Char) :=
  ["primary_key".toList, "AUTO_INCREMENT".toList, "NOT NULL".toList, "default:''".toList]

/-- The settings of a column with its texts written in two ways, one beside the other. -/
theorem forall₂_settingsWith {R : List Char → List Char → Prop} {f g : List Char → List Char}
    (c : Column) (hmarker : ∀ s ∈ markers, R s s)
    (hname : R ("column:".toList ++ f c.name.toList) ("column:".toList ++ g c.name.toList))
    (hdefault : ∀ value : String,
      R ("default:".toList ++ f value.toList) ("default:".toList ++ g value.toList))
    (hcomment : R ("comment:'".toList ++ f c.commentText.toList ++ "'".toList)
      ("comment:'".toList ++ g c.commentText.toList ++ "'".toList)) :
    List.Forall₂ R (settingsWith f c) (settingsWith g c) := by
  simp only [markers, List.forall_mem_cons, List.not_mem_nil, false_imp_iff, implies_true,
    and_true] at hmarker
  obtain ⟨hprimary, hincrement, hnull, hempty⟩ := hmarker
  refine List.rel_append (List.rel_append (List.rel_append (List.rel_append (List.rel_append
    (.cons hname .nil) ?primary) ?increment) ?null) ?default) ?comment
  case primary =>
    split
    · exact .cons hprimary .nil
    · exact .nil
  case increment =>
    split
    · exact .cons hincrement .nil
    · exact .nil
  case null =>
    split
    · exact .nil
    · exact .cons hnull .nil
  case default =>
    split
    · exact .nil
    split
    · exact .cons hempty .nil
    · exact .cons (hdefault _) .nil
  case comment =>
    split
    · exact .nil
    · exact .cons hcomment .nil

theorem standsFor_tagSettings (c : Column) :
    List.Forall₂ StandsFor (tagSettings c) (settingsWith escapedText c) := by
  have hlabelled : ∀ label text : List Char, (∀ d ∈ label, d ≠ '\\' ∧ d ≠ '"') →
      StandsFor (label ++ tagValue text) (label ++ escapedText text) := by
    intro label text h
    exact (StandsFor.self h).append (standsFor_tagValue text)
  refine forall₂_settingsWith c ?marker ?name ?default ?comment
  case marker =>
    simp only [markers, List.forall_mem_cons, List.not_mem_nil, false_imp_iff, implies_true,
      and_true]
    exact ⟨.self (by simp), .self (by simp), .self (by simp), .self (by simp)⟩
  case name => exact hlabelled _ _ (by simp)
  case default => exact fun value => hlabelled _ _ (by simp)
  case comment => exact (hlabelled _ _ (by simp)).append (.self (by simp))

/-- Only the texts of a column have semicolons to escape. -/
theorem map_escape_settings (c : Column) :
    (settings c).map (escape ';') = settingsWith escapedText c := by
  have hlabelled : ∀ label text : List Char, ';' ∉ label →
      escape ';' (label ++ settingText text) = label ++ escapedText text := by
    intro label text hsep
    rw [escape_append, escape_eq_self hsep]
    rfl
  rw [← List.forall₂_eq_eq_eq, List.forall₂_map_left_iff]
  refine forall₂_settingsWith c ?marker ?name ?default ?comment
  case marker =>
    simp only [markers, List.forall_mem_cons, List.not_mem_nil, false_imp_iff, implies_true,
      and_true]
    decide
  case name => exact hlabelled _ _ (by decide)
  case default => exact fun value => hlabelled _ _ (by decide)
  case comment =>
    rw [escape_append, hlabelled _ _ (by decide)]
    rfl

theorem settings_ne_nil (c : Column) : settings c ≠ [] := by
  simp only [settings, settingsWith, ne_eq, List.append_eq_nil_iff, reduceCtorEq, false_and,
    not_false_eq_true]

theorem joinSettings_eq (ss : List (List Char)) : joinSettings ss = [';'].intercalate ss := by
  induction ss with
  | nil => rfl
  | cons s ss ih =>
    cases ss with
    | nil => simp [joinSettings]
    | cons t rest =>
      rw [joinSettings, ih, List.intercalate_cons_cons, List.append_assoc]
      · rfl
      · simp

/-- Settings are joined as what they stand for is. -/
theorem standsFor_joinSettings {as ss : List (List Char)} (h : List.Forall₂ StandsFor as ss) :
    StandsFor (joinSettings as) ([';'].intercalate ss) := by
  rw [joinSettings_eq]
  induction h with
  | nil => exact .nil
  | @cons a s as ss ha hrest ih =>
    cases hrest with
    | nil => simpa using ha
    | cons hb hmore =>
      have hsep : StandsFor [';'] [';'] := .plain (by decide) (by decide) .nil
      rw [List.intercalate_cons_cons, List.intercalate_cons_cons]
      exact (ha.append hsep).append ih

/-! ## What a tag cannot contain -/

theorem not_mem_tagChar {c : Char} (hn : c ≠ '\n') : '\x60' ∉ tagChar c ∧ '\n' ∉ tagChar c := by
  unfold tagChar
  repeat' split
  all_goals simp_all [eq_comm]

theorem not_mem_tagValue (s : List Char) : '\x60' ∉ tagValue s ∧ '\n' ∉ tagValue s := by
  have h : ∀ c ∈ flatten s, '\x60' ∉ tagChar c ∧ '\n' ∉ tagChar c := by
    intro c hc
    refine not_mem_tagChar ?_
    rintro rfl
    exact (newline_not_mem_flatten s).1 hc
  simp only [tagValue, List.mem_flatMap, not_exists, not_and]
  exact ⟨fun c hc => (h c hc).1, fun c hc => (h c hc).2⟩

theorem not_mem_tagSettings (c : Column) : ∀ s ∈ tagSettings c, '\x60' ∉ s ∧ '\n' ∉ s := by
  have hsettings : List.Forall₂ (fun a _ => '\x60' ∉ a ∧ '\n' ∉ a) (tagSettings c)
      (tagSettings c) := by
    refine forall₂_settingsWith c (by decide) ?name ?default ?comment
    case name => simp [not_mem_tagValue c.name.toList]
    case default => exact fun value => by simp [not_mem_tagValue value.toList]
    case comment => simp [not_mem_tagValue c.commentText.toList]
  exact List.forall₂_same.1 hsettings

theorem not_mem_joinSettings {ss : List (List Char)} {d : Char} (hd : d ≠ ';')
    (h : ∀ s ∈ ss, d ∉ s) : d ∉ joinSettings ss := by
  induction ss with
  | nil => simp [joinSettings]
  | cons s ss ih =>
    rw [List.forall_mem_cons] at h
    cases ss with
    | nil => exact h.1
    | cons t rest =>
      have hrest := ih h.2
      rw [joinSettings]
      · simp [h.1, hd, hrest]
      · simp

/-! ## The tag -/

theorem fieldTag_eq (c : Column) :
    fieldTag c = "gorm".toList ++ ':' :: '"' :: joinSettings (tagSettings c) ++ ['"'] := rfl

/-- A tag can stand between backquotes on one line. -/
theorem not_mem_fieldTag (c : Column) : '\x60' ∉ fieldTag c ∧ '\n' ∉ fieldTag c := by
  have h := not_mem_tagSettings c
  have hraw := not_mem_joinSettings (d := '\x60') (by decide) fun s hs => (h s hs).1
  have hline := not_mem_joinSettings (d := '\n') (by decide) fun s hs => (h s hs).2
  rw [fieldTag_eq]
  simp [hraw, hline]

/-- The value of the tag, unquoted. -/
theorem tagLookup?_fieldTag (c : Column) :
    tagLookup? "gorm".toList (fieldTag c) =
      some ([';'].intercalate ((settings c).map (escape ';'))) := by
  have hline : '\n' ∉ joinSettings (tagSettings c) := by
    have htag := (not_mem_fieldTag c).2
    rw [fieldTag_eq] at htag
    simp only [List.mem_append, List.mem_cons, not_or] at htag
    exact htag.1.2.2.2
  have hread := (standsFor_joinSettings (standsFor_tagSettings c)).unquote_eq hline
  have hspan : (fieldTag c).span (fun c => c ≠ ':' && c ≠ '"' && !isBlank c) =
      ("gorm".toList, ':' :: '"' :: joinSettings (tagSettings c) ++ ['"']) := rfl
  rw [tagLookup?, hspan, map_escape_settings]
  exact (if_pos rfl).trans (readLiteral_of_unquote hread)

/-- **A tag is safe where it stands.**  Between backquotes it is one raw string on one line.  It is
the key and a quoted value, in which the two escapes stand for the settings of the column, each text
in them on one line, without backquotes and with a backslash before each semicolon. -/
theorem fieldTag_standsFor (c : Column) :
    tokenize ('\x60' :: fieldTag c ++ ['\x60']) =
      .ok [⟨.rawString, '\x60' :: fieldTag c ++ ['\x60'], 1, 1⟩] ∧
    ∃ inside, fieldTag c = "gorm:\"".toList ++ inside ++ "\"".toList ∧
      StandsFor inside ([';'].intercalate (settingsWith escapedText c)) := by
  obtain ⟨hraw, hline⟩ := not_mem_fieldTag c
  have hspells : Spells ([] ++ ('\x60' :: fieldTag c ++ ['\x60'])) _ '\n' :=
    .rawString rfl hraw hline
  exact ⟨hspells.tokenize_eq, joinSettings (tagSettings c), rfl,
    standsFor_joinSettings (standsFor_tagSettings c)⟩

/-- **The settings that are read from a column's tag** are those of the column, where one that ends
in a backslash absorbs the next; they are exactly those of the column if and only if none but the
last ends in a backslash. -/
theorem readSettings_fieldTag (c : Column) :
    readSettings (fieldTag c) = some (absorb ';' (settings c)) ∧
      (readSettings (fieldTag c) = some (settings c) ↔
        ∀ s ∈ (settings c).dropLast, s.getLast? ≠ some '\\') := by
  have hread : readSettings (fieldTag c) = some (absorb ';' (settings c)) := by
    rw [readSettings, tagLookup?_fieldTag, Option.map_some,
      map_dropEscapes_parts_intercalate (by decide) (settings_ne_nil c)]
  refine ⟨hread, ?_⟩
  rw [hread, Option.some.injEq]
  exact absorb_eq_self_iff

/-- A column whose name ends in a backslash and that has a setting after its name. -/
def backslashColumn : Column where
  ordinal := 1
  name := "a\\"
  columnType := "int"
  dataType := "int"
  key := none
  nullable := false
  extra := none
  comment := none
  default := none

/-- Its two settings are read as one. -/
theorem readSettings_backslash_name :
    settings backslashColumn = ["column:a\\".toList, "NOT NULL".toList] ∧
      readSettings (fieldTag backslashColumn) = some ["column:a;NOT NULL".toList] ∧
      readSettings (fieldTag backslashColumn) ≠ some (settings backslashColumn) := by
  decide

end Scribe.Document
