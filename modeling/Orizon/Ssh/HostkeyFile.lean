import Mathlib.Data.List.TakeWhile
import Orizon.Ssh.Poll
import Orizon.System.Text
import Orizon.Vfs.ReadBack

/-!
# Orizon.Ssh.HostkeyFile

The host key file of `system/ssh.c`: `ssh_write_hostkey_file` and `ssh_load_hostkey_file`.

The text is a list of lines, each a name, a space and a value.  The reader looks for the line
of a name from the first line on, so a text of such lines with different names is read as a
table (`sshFindLineValue_fieldsText`).
-/

namespace Orizon

/-! ## The text -/

/-- `SSH_HOSTKEY_FILE_MAX`. -/
def sshHostkeyFileMax : Nat := 1600

/-- `ORIZON_SSH_HOSTKEY_PATH`. -/
def orizonSshHostkeyPath : CStr := cstr "/system/ssh_host_rsa.key"

/-- `ssh_append_text` to a buffer of `cap` bytes; `none` is -1. -/
def sshAppendText (cap : Nat) (text buf : CStr) : Option CStr :=
  if buf.length ≥ cap then none
  else if buf.length + text.length ≥ cap then none
  else some (buf ++ text)

/-- The `hex` of `ssh_append_hex_line`. -/
def sshHexChars : CStr := cstr "0123456789abcdef"

/-- The two characters of a byte. -/
def sshHexByte (b : UInt8) : CStr :=
  [sshHexChars.getD (b >>> 4).toNat (cchar '0'), sshHexChars.getD (b &&& 0x0f).toNat (cchar '0')]

/-- `ssh_append_hex_line`. -/
def sshAppendHexLine (cap : Nat) (name : CStr) (data : List UInt8) (buf : CStr) : Option CStr := do
  let buf ← sshAppendText cap name buf
  let buf ← sshAppendText cap (cstr " ") buf
  let buf ← data.foldlM (fun buf b => if buf.length + 3 ≥ cap then none else some (buf ++ sshHexByte b)) buf
  return buf ++ cstr "\n"

/-- `snprintf` into the `line[128]` of `ssh_write_hostkey_file`. -/
def sshHostkeyLine (text : CStr) : CStr := text.take 127

/-- The calls that build the text of `ssh_write_hostkey_file`. -/
def sshHostkeyAppends (m : SshHostkeyMaterial) (sha256 : CStr) (ticks : UInt64) : List (CStr → Option CStr) :=
  let cap := sshHostkeyFileMax
  [sshAppendText cap (if m.d.isSome then cstr "format orizon-ssh-rsa-private-v2\n"
      else cstr "format orizon-ssh-rsa-crt-v1\n"),
    sshAppendText cap (cstr "algorithm rsa-sha2-256\n" ++ cstr "source Orizon OS persistent SSH host identity\n"),
    sshAppendText cap (sshHostkeyLine (cstr "fingerprint-sha256 " ++
      (if sha256 = [] then cstr "none" else sha256) ++ cstr "\n")),
    sshAppendText cap (sshHostkeyLine (cstr "created-ticks " ++ cstrNat ticks.toNat ++ cstr "\n")),
    sshAppendText cap (if m.d.isSome then cstr "generator per-install-rsa-sha256\n"
      else cstr "generator compiled-bootstrap\n"),
    fun buf => match m.d with
      | none => some buf
      | some d => sshAppendHexLine cap (cstr "d") d.toList buf,
    sshAppendHexLine cap (cstr "n") m.n.toList,
    sshAppendHexLine cap (cstr "p") m.p.toList,
    sshAppendHexLine cap (cstr "q") m.q.toList,
    sshAppendHexLine cap (cstr "dmp1") m.dmp1.toList,
    sshAppendHexLine cap (cstr "dmq1") m.dmq1.toList,
    sshAppendHexLine cap (cstr "iqmp") m.iqmp.toList]

/-- The text of `ssh_write_hostkey_file`. -/
def sshHostkeyText (m : SshHostkeyMaterial) (sha256 : CStr) (ticks : UInt64) : Option CStr :=
  (sshHostkeyAppends m sha256 ticks).foldlM (fun buf append => append buf) []

/-! ## Reading the text -/

/-- `ssh_hex_value`; `none` is -1. -/
def sshHexValue (c : CChar) : Option Nat :=
  if 0x30 ≤ c.val ∧ c.val ≤ 0x39 then some (c.val.toNat - 0x30)
  else if 0x61 ≤ c.val ∧ c.val ≤ 0x66 then some (c.val.toNat - 0x61 + 10)
  else if 0x41 ≤ c.val ∧ c.val ≤ 0x46 then some (c.val.toNat - 0x41 + 10)
  else none

theorem length_findLine_lt {p : CStr} (h : p ≠ []) :
    ((p.dropWhile isLineEnd).dropWhile (· ≠ cchar '\n')).length < p.length := by
  cases p with
  | nil => contradiction
  | cons c p =>
      have hrest : ∀ l : CStr, (l.dropWhile (· ≠ cchar '\n')).length ≤ l.length := fun l =>
        (List.dropWhile_suffix _).length_le
      have hskip := (List.dropWhile_suffix isLineEnd (l := p)).length_le
      by_cases hc : isLineEnd c = true
      · rw [List.dropWhile_cons_of_pos hc, List.length_cons]
        have := hrest (p.dropWhile isLineEnd)
        omega
      · have hne : c ≠ cchar '\n' := fun heq => hc (by simp [isLineEnd, heq])
        rw [List.dropWhile_cons_of_neg hc, List.dropWhile_cons_of_pos (by simpa using hne), List.length_cons]
        have := hrest p
        omega

/-- `ssh_find_line_value`; `none` is `NULL`. -/
def sshFindLineValue (name p : CStr) : Option CStr :=
  if h : p = [] then none
  else
    let p := p.dropWhile isLineEnd
    if strncmpEq p name name.length ∧ p[name.length]? = some (cchar ' ') then some (p.drop (name.length + 1))
    else sshFindLineValue name (p.dropWhile (· ≠ cchar '\n'))
termination_by p.length
decreasing_by exact length_findLine_lt h

/-- The loop of `ssh_parse_hex_field`: whether all bytes of `out` were parsed, `out` afterwards
and the text behind them. -/
def sshParseHexBytes : List UInt8 → CStr → Bool × List UInt8 × CStr
  | [], p => (true, [], p)
  | old :: out, p =>
      match (p[0]?).bind sshHexValue, (p[1]?).bind sshHexValue with
      | some hi, some lo =>
          let r := sshParseHexBytes out (p.drop 2)
          (r.1, UInt8.ofNat (hi <<< 4 ||| lo) :: r.2.1, r.2.2)
      | _, _ => (false, old :: out, p)

/-- `ssh_parse_hex_field` into the bytes `out`: whether it returns 0, and the bytes afterwards. -/
def sshParseHexField (text name : CStr) (out : List UInt8) : Bool × List UInt8 :=
  match sshFindLineValue name text with
  | none => (false, out)
  | some p =>
      let r := sshParseHexBytes out p
      let ends := match r.2.2.head? with
        | none => true
        | some c => isLineEnd c || c = cchar ' '
      (r.1 && ends, r.2.1)

/-- The key in the text of a host key file, of `ssh_load_hostkey_file`; `none` is -1. -/
def sshReadHostkeyText (text : CStr) : Option SshHostkeyMaterial :=
  if !strstrFound text (cstr "format orizon-ssh-rsa-crt-v1") &&
      !strstrFound text (cstr "format orizon-ssh-rsa-private-v2") then none
  else
    let zero := List.replicate 64 0
    let n := sshParseHexField text (cstr "n") (List.replicate 128 0)
    let d := sshParseHexField text (cstr "d") (List.replicate 128 0)
    let p := sshParseHexField text (cstr "p") zero
    let q := sshParseHexField text (cstr "q") zero
    let dmp1 := sshParseHexField text (cstr "dmp1") zero
    let dmq1 := sshParseHexField text (cstr "dmq1") zero
    let iqmp := sshParseHexField text (cstr "iqmp") zero
    if !n.1 then none
    else if !d.1 && !(p.1 && q.1 && dmp1.1 && dmq1.1 && iqmp.1) then none
    else some
      { n := copyBytes 128 n.2
        p := copyBytes 64 p.2
        q := copyBytes 64 q.2
        dmp1 := copyBytes 64 dmp1.2
        dmq1 := copyBytes 64 dmq1.2
        iqmp := copyBytes 64 iqmp.2
        d := if d.1 then some (copyBytes 128 d.2) else none }

/-! ## The file -/

/-- What `ssh_set_hostkey_report` stores in `ssh_status`. -/
structure SshHostkeyReport where
  source : CStr
  status : CStr
  persistent : Bool
  bootstrap : Bool

/-- The server, the report of its host key and the file system. -/
structure SshIdentity (H : Type) where
  ssh : SshState
  report : SshHostkeyReport
  vfs : Vfs H

variable {H : Type} [Allocator H]

/-- `ssh_write_hostkey_file` at a time in ticks: whether it returns 0, and the state. -/
def SshIdentity.writeHostkeyFile (x : SshIdentity H) (ticks : UInt64) : Bool × SshIdentity H :=
  let r := sshRebuildHostKeyBlob x.ssh
  let x := { x with ssh := r.2 }
  if !r.1 then (false, x)
  else
    match sshHostkeyText x.ssh.hostkey.material (bytesCstr x.ssh.hostkey.sha256) ticks with
    | none => (false, x)
    | some text =>
        let put := vfsPut (vfsMkdir x.vfs (cstr "/system")).2 orizonSshHostkeyPath (oCreat ||| oWronly ||| oTrunc)
          (strBytes text)
        let x := { x with vfs := put.2 }
        if put.1 = .done then
          let hasD := x.ssh.hostkey.material.d.isSome
          (true, { x with
            ssh := sshSetHostkeyReport x.ssh
            report := ⟨orizonSshHostkeyPath, cstr "ssh: persistent host key file saved", true,
              if hasD then false else x.report.bootstrap⟩ })
        else (false, x)

/-- `ssh_load_hostkey_file`: whether it returns 0, and the state. -/
def SshIdentity.loadHostkeyFile (x : SshIdentity H) : Bool × SshIdentity H :=
  let get := vfsGet x.vfs orizonSshHostkeyPath (sshHostkeyFileMax - 1)
  let x := { x with vfs := get.2 }
  match get.1 with
  | some (.ok (c :: bytes)) =>
      let text := bytesCstr (c :: bytes)
      match sshReadHostkeyText text with
      | none => (false, x)
      | some m =>
          let r := sshInstallHostkey m x.ssh
          let x := { x with ssh := r.2 }
          if r.1 then
            (true, { x with report := ⟨orizonSshHostkeyPath, cstr "ssh: loaded persistent host key file", true,
              strstrFound text (cstr "generator compiled-bootstrap")⟩ })
          else (false, x)
  | _ => (false, x)

/-! ## Appending -/

section Appending

variable {cap : Nat} {buf text name : CStr} {data : List UInt8}

/-- The hexadecimal digits of bytes. -/
def sshHexText (data : List UInt8) : CStr := data.flatMap sshHexByte

@[simp] theorem length_sshHexText (data : List UInt8) : (sshHexText data).length = 2 * data.length := by
  induction data with
  | nil => rfl
  | cons b data ih =>
      rw [sshHexText, List.flatMap_cons, List.length_append, ← sshHexText, ih]
      simp [sshHexByte]
      omega

/-- A call appends a text where the buffer has room for it. -/
def Appends (cap : Nat) (append : CStr → Option CStr) (text : CStr) : Prop :=
  ∀ buf : CStr, buf.length + text.length < cap → append buf = some (buf ++ text)

theorem appends_sshAppendText (cap : Nat) (text : CStr) : Appends cap (sshAppendText cap text) text := by
  intro buf h
  rw [sshAppendText, if_neg (by omega), if_neg (by omega)]

theorem appends_sshAppendHexLine (cap : Nat) (name : CStr) (data : List UInt8) :
    Appends cap (sshAppendHexLine cap name data) (name ++ cstr " " ++ sshHexText data ++ cstr "\n") := by
  intro buf h
  have hspace : (cstr " ").length = 1 := rfl
  have hend : (cstr "\n").length = 1 := rfl
  simp only [List.length_append, length_sshHexText, hspace, hend] at h
  have hhex : ∀ (data : List UInt8) (buf : CStr), buf.length + 2 * data.length + 1 < cap →
      data.foldlM (fun buf b => if buf.length + 3 ≥ cap then none else some (buf ++ sshHexByte b)) buf =
        some (buf ++ sshHexText data) := by
    intro data
    induction data with
    | nil => simp [sshHexText]
    | cons b data ih =>
        intro buf hroom
        rw [List.length_cons] at hroom
        rw [List.foldlM_cons, if_neg (by omega), Option.bind_eq_bind, Option.bind_some, ih]
        · simp [sshHexText]
        · simp only [List.length_append, sshHexByte, List.length_cons, List.length_nil]
          omega
  rw [sshAppendHexLine, appends_sshAppendText cap name buf (by omega), Option.bind_eq_bind, Option.bind_some,
    appends_sshAppendText cap (cstr " ") _ (by rw [List.length_append]; omega), Option.bind_some,
    hhex data _ (by simp only [List.length_append, hspace]; omega)]
  simp

/-- Calls that append one behind the other do not fail if the whole text has room. -/
theorem foldlM_appends {appends : List (CStr → Option CStr)} {texts : List CStr}
    (h : List.Forall₂ (Appends cap) appends texts) (hroom : buf.length + texts.flatten.length < cap) :
    appends.foldlM (fun buf append => append buf) buf = some (buf ++ texts.flatten) := by
  induction h generalizing buf with
  | nil => simp
  | cons hfirst _ ih =>
      rw [List.flatten_cons, List.length_append] at hroom
      rw [List.foldlM_cons, hfirst buf (by omega), Option.bind_eq_bind, Option.bind_some,
        ih (by rw [List.length_append]; omega), List.flatten_cons, List.append_assoc]

end Appending

/-! ## Lines of names and values -/

section Fields

variable {name value rest : CStr} {fields : List (CStr × CStr)} {f : CStr × CStr}

/-- A line. -/
def fieldLine (f : CStr × CStr) : CStr := f.1 ++ cchar ' ' :: f.2 ++ [cchar '\n']

/-- The text of the lines. -/
def fieldsText (fields : List (CStr × CStr)) : CStr := fields.flatMap fieldLine

/-- A word: it is not empty and has no space and no line end. -/
structure IsWord (name : CStr) : Prop where
  nonempty : name ≠ []
  plain : ∀ c ∈ name, isLineEnd c = false ∧ c ≠ cchar ' '

/-- The name of a line is a word, and the value stays on the line. -/
structure FieldOk (f : CStr × CStr) : Prop where
  word : IsWord f.1
  oneLine : ∀ c ∈ f.2, c ≠ cchar '\n'

theorem isLineEnd_newline : isLineEnd (cchar '\n') = true := rfl

/-- Two words that a text begins with, each with a space behind it, are the same. -/
theorem word_eq_of_isPrefix (hname : IsWord name) (hword : IsWord value)
    (h : name ++ [cchar ' '] <+: value ++ cchar ' ' :: rest) : name = value := by
  induction name generalizing value with
  | nil => exact absurd rfl hname.nonempty
  | cons c name ih =>
      cases value with
      | nil => exact absurd rfl hword.nonempty
      | cons c' value =>
          obtain ⟨rfl, htail⟩ := List.cons_prefix_cons.mp h
          have hplain := fun x hx => hname.plain x (List.mem_cons_of_mem c hx)
          have hplain' := fun x hx => hword.plain x (List.mem_cons_of_mem c hx)
          by_cases hnil : name = []
          · cases value with
            | nil => rw [hnil]
            | cons d value =>
                rw [hnil] at htail
                have hd := (List.cons_prefix_cons.mp htail).1
                exact absurd hd.symm (hplain' d (by simp)).2
          · cases value with
            | nil =>
                obtain ⟨d, name, rfl⟩ := List.exists_cons_of_ne_nil hnil
                have hd := (List.cons_prefix_cons.mp htail).1
                exact absurd hd (hplain d (by simp)).2
            | cons d value => rw [ih ⟨hnil, hplain⟩ ⟨by simp, hplain'⟩ htail]

theorem sshFindLineValue_newline (name p : CStr) :
    sshFindLineValue name (cchar '\n' :: p) = sshFindLineValue name p := by
  rw [sshFindLineValue, dif_neg (by simp), List.dropWhile_cons_of_pos isLineEnd_newline]
  by_cases hp : p = []
  · subst hp
    have hno : ¬ (strncmpEq [] name name.length = true ∧ ([] : CStr)[name.length]? = some (cchar ' ')) := by simp
    exact if_neg hno
  · conv_rhs => rw [sshFindLineValue, dif_neg hp]

theorem strncmpEq_space_iff {p : CStr} :
    strncmpEq p name name.length = true ∧ p[name.length]? = some (cchar ' ') ↔ name ++ [cchar ' '] <+: p := by
  rw [strncmpEq, List.take_length, decide_eq_true_eq]
  constructor
  · rintro ⟨htake, hspace⟩
    obtain ⟨hlt, hspace⟩ := List.getElem?_eq_some_iff.mp hspace
    refine ⟨p.drop (name.length + 1), ?_⟩
    conv_rhs => rw [← List.take_append_drop (name.length + 1) p, List.take_succ_eq_append_getElem hlt, htake, hspace]
  · rintro ⟨t, rfl⟩
    simp

/-- One line: the value of its name is found, any other name is looked for behind it. -/
theorem sshFindLineValue_line (hname : IsWord name) (hf : FieldOk f) :
    sshFindLineValue name (fieldLine f ++ rest) =
      if f.1 = name then some (f.2 ++ cchar '\n' :: rest) else sshFindLineValue name rest := by
  obtain ⟨c, key, hkey⟩ := List.exists_cons_of_ne_nil hf.word.nonempty
  have hline : fieldLine f ++ rest = f.1 ++ cchar ' ' :: (f.2 ++ cchar '\n' :: rest) := by simp [fieldLine]
  have hstart : (fieldLine f ++ rest).dropWhile isLineEnd = fieldLine f ++ rest := by
    have hc := (hf.word.plain c (by simp [hkey])).1
    rw [hline, hkey, List.cons_append, List.dropWhile_cons_of_neg (by simp [hc])]
  rw [sshFindLineValue, dif_neg (by simp [hline])]
  dsimp only
  rw [hstart]
  by_cases heq : f.1 = name
  · rw [if_pos (strncmpEq_space_iff.mpr ⟨f.2 ++ cchar '\n' :: rest, by simp [hline, heq]⟩), if_pos heq, hline, heq]
    simp
  · rw [if_neg heq, if_neg fun h => heq (word_eq_of_isPrefix hname hf.word (hline ▸ strncmpEq_space_iff.mp h)).symm]
    have hskip : (fieldLine f ++ rest).dropWhile (· ≠ cchar '\n') = cchar '\n' :: rest := by
      have hplain : ∀ x ∈ f.1 ++ cchar ' ' :: f.2, x ≠ cchar '\n' := by
        intro x hx
        obtain hx | rfl | hx := List.mem_append.mp hx |>.imp_right List.mem_cons.mp
        · rintro rfl
          exact absurd (hf.word.plain _ hx).1 (by simp [isLineEnd_newline])
        · decide
        · exact hf.oneLine x hx
      have happend : fieldLine f ++ rest = (f.1 ++ cchar ' ' :: f.2) ++ cchar '\n' :: rest := by simp [fieldLine]
      rw [happend, List.dropWhile_append_of_pos (by simpa using hplain), List.dropWhile_cons_of_neg (by simp)]
    rw [hskip, sshFindLineValue_newline]

/-- In a text of lines with different names each name has its value. -/
theorem sshFindLineValue_of_mem (hok : ∀ f ∈ fields, FieldOk f) (hnodup : (fields.map Prod.fst).Nodup)
    (hmem : (name, value) ∈ fields) :
    ∃ rest, sshFindLineValue name (fieldsText fields) = some (value ++ cchar '\n' :: rest) := by
  have hname : IsWord name := (hok _ hmem).word
  induction fields with
  | nil => simp at hmem
  | cons f fields ih =>
      rw [fieldsText, List.flatMap_cons, ← fieldsText, sshFindLineValue_line hname (hok f (by simp))]
      rw [List.map_cons, List.nodup_cons] at hnodup
      obtain rfl | hmem := List.mem_cons.mp hmem
      · exact ⟨_, if_pos rfl⟩
      · have hne : f.1 ≠ name := fun heq => hnodup.1 (heq ▸ List.mem_map_of_mem (f := Prod.fst) hmem)
        rw [if_neg hne]
        exact ih (fun g hg => hok g (by simp [hg])) hnodup.2 hmem

theorem sshFindLineValue_of_not_mem (hok : ∀ f ∈ fields, FieldOk f) (hname : IsWord name)
    (hmem : name ∉ fields.map Prod.fst) : sshFindLineValue name (fieldsText fields) = none := by
  induction fields with
  | nil => rw [fieldsText, List.flatMap_nil, sshFindLineValue, dif_pos rfl]
  | cons f fields ih =>
      rw [List.map_cons, List.mem_cons, not_or] at hmem
      rw [fieldsText, List.flatMap_cons, ← fieldsText, sshFindLineValue_line hname (hok f (by simp)),
        if_neg (Ne.symm hmem.1)]
      exact ih (fun g hg => hok g (by simp [hg])) hmem.2

end Fields

/-! ## Hexadecimal numbers -/

section Hex

variable {data out : List UInt8} {rest name : CStr} {fields : List (CStr × CStr)}

theorem sshHexValue_char (i : Fin 16) : sshHexValue (sshHexChars.getD i (cchar '0')) = some i.val := by
  revert i
  decide

theorem sshHexChar_ne_newline (i : Fin 16) : sshHexChars.getD i (cchar '0') ≠ cchar '\n' := by
  revert i
  decide

theorem nibbles (b : UInt8) : (b >>> 4).toNat < 16 ∧ (b &&& 0x0f).toNat < 16 ∧
    UInt8.ofNat ((b >>> 4).toNat <<< 4 ||| (b &&& 0x0f).toNat) = b := by
  have hb := b.toNat_lt
  have hhi : (b >>> 4).toNat = b.toNat / 16 := by
    rw [UInt8.toNat_shiftRight, Nat.shiftRight_eq_div_pow]
    rfl
  have hlo : (b &&& 0x0f).toNat = b.toNat % 16 := by
    rw [UInt8.toNat_and]
    exact Nat.and_two_pow_sub_one_eq_mod b.toNat 4
  refine ⟨by omega, by omega, ?_⟩
  have hlt : (b &&& 0x0f).toNat < 2 ^ 4 := by omega
  rw [← Nat.shiftLeft_add_eq_or_of_lt hlt, hhi, hlo, Nat.shiftLeft_eq,
    show b.toNat / 16 * 2 ^ 4 + b.toNat % 16 = b.toNat by omega, UInt8.ofNat_toNat]

theorem sshParseHexBytes_hexText (hlen : out.length = data.length) :
    sshParseHexBytes out (sshHexText data ++ rest) = (true, data, rest) := by
  induction data generalizing out with
  | nil =>
      obtain rfl := List.length_eq_zero_iff.mp hlen
      rfl
  | cons b data ih =>
      obtain ⟨old, out, rfl⟩ := List.exists_cons_of_length_eq_add_one hlen
      obtain ⟨hhi, hlo, hb⟩ := nibbles b
      have hhigh := sshHexValue_char ⟨_, hhi⟩
      have hlow := sshHexValue_char ⟨_, hlo⟩
      have htext : sshHexText (b :: data) ++ rest = sshHexByte b ++ (sshHexText data ++ rest) := by simp [sshHexText]
      rw [htext, sshHexByte, sshParseHexBytes]
      simp only [List.cons_append, List.nil_append, List.getElem?_cons_zero, List.getElem?_cons_succ, Option.bind_some,
        List.drop_succ_cons, List.drop_zero]
      dsimp only at hhigh hlow
      rw [hhigh, hlow]
      dsimp only
      rw [ih (by simpa using hlen), hb]

theorem sshHexText_ne_newline {c : CChar} (h : c ∈ sshHexText data) : c ≠ cchar '\n' := by
  obtain ⟨b, -, hc⟩ := List.mem_flatMap.mp h
  obtain ⟨hhi, hlo, -⟩ := nibbles b
  simp only [sshHexByte, List.mem_cons, List.not_mem_nil, or_false] at hc
  obtain rfl | rfl := hc
  · exact sshHexChar_ne_newline ⟨_, hhi⟩
  · exact sshHexChar_ne_newline ⟨_, hlo⟩

theorem sshParseHexField_of_mem (hok : ∀ f ∈ fields, FieldOk f) (hnodup : (fields.map Prod.fst).Nodup)
    (hmem : (name, sshHexText data) ∈ fields) (hlen : out.length = data.length) :
    sshParseHexField (fieldsText fields) name out = (true, data) := by
  obtain ⟨rest, hfind⟩ := sshFindLineValue_of_mem hok hnodup hmem
  rw [sshParseHexField, hfind]
  dsimp only
  rw [sshParseHexBytes_hexText hlen]
  rfl

theorem sshParseHexField_of_not_mem (hok : ∀ f ∈ fields, FieldOk f) (hname : IsWord name)
    (hmem : name ∉ fields.map Prod.fst) (out : List UInt8) :
    sshParseHexField (fieldsText fields) name out = (false, out) := by
  rw [sshParseHexField, sshFindLineValue_of_not_mem hok hname hmem]

end Hex

/-! ## The lines of a key -/

section Key

variable {m : SshHostkeyMaterial} {sha256 : CStr} {ticks : UInt64}

/-- The lines before the numbers. -/
def sshHostkeyHead (m : SshHostkeyMaterial) (sha256 : CStr) (ticks : UInt64) : List (CStr × CStr) :=
  [(cstr "format", if m.d.isSome then cstr "orizon-ssh-rsa-private-v2" else cstr "orizon-ssh-rsa-crt-v1"),
    (cstr "algorithm", cstr "rsa-sha2-256"), (cstr "source", cstr "Orizon OS persistent SSH host identity"),
    (cstr "fingerprint-sha256", sha256), (cstr "created-ticks", cstrNat ticks.toNat),
    (cstr "generator", if m.d.isSome then cstr "per-install-rsa-sha256" else cstr "compiled-bootstrap")]

/-- The numbers of a key by their names. -/
def SshHostkeyMaterial.numbers (m : SshHostkeyMaterial) : List (CStr × List UInt8) :=
  (match m.d with
    | none => []
    | some d => [(cstr "d", d.toList)]) ++
  [(cstr "n", m.n.toList), (cstr "p", m.p.toList), (cstr "q", m.q.toList), (cstr "dmp1", m.dmp1.toList),
    (cstr "dmq1", m.dmq1.toList), (cstr "iqmp", m.iqmp.toList)]

/-- The lines of the file. -/
def sshHostkeyFields (m : SshHostkeyMaterial) (sha256 : CStr) (ticks : UInt64) : List (CStr × CStr) :=
  sshHostkeyHead m sha256 ticks ++ m.numbers.map fun number => (number.1, sshHexText number.2)

/-- The names of the lines. -/
def sshHostkeyNames (hasD : Bool) : List CStr :=
  [cstr "format", cstr "algorithm", cstr "source", cstr "fingerprint-sha256", cstr "created-ticks", cstr "generator"] ++
    (if hasD then [cstr "d"] else []) ++ [cstr "n", cstr "p", cstr "q", cstr "dmp1", cstr "dmq1", cstr "iqmp"]

theorem names_sshHostkeyFields (m : SshHostkeyMaterial) (sha256 : CStr) (ticks : UInt64) :
    (sshHostkeyFields m sha256 ticks).map Prod.fst = sshHostkeyNames m.d.isSome := by
  cases hd : m.d <;> simp [sshHostkeyFields, sshHostkeyHead, SshHostkeyMaterial.numbers, sshHostkeyNames, hd]

theorem nodup_sshHostkeyNames : ∀ hasD, (sshHostkeyNames hasD).Nodup := by decide

theorem isWord_sshHostkeyNames {hasD : Bool} {name : CStr} (h : name ∈ sshHostkeyNames hasD) : IsWord name := by
  have hall : ∀ hasD, ∀ name ∈ sshHostkeyNames hasD, name ≠ [] ∧ ∀ c ∈ name, isLineEnd c = false ∧ c ≠ cchar ' ' := by
    decide +kernel
  exact ⟨(hall _ _ h).1, (hall _ _ h).2⟩

theorem sshHostkeyFields_ok (m : SshHostkeyMaterial) (ticks : UInt64) (hsha : ∀ c ∈ sha256, c ≠ cchar '\n') :
    (∀ f ∈ sshHostkeyFields m sha256 ticks, FieldOk f) ∧ ((sshHostkeyFields m sha256 ticks).map Prod.fst).Nodup := by
  have hdigits : ∀ c ∈ cstrNat ticks.toNat, c ≠ cchar '\n' := by
    intro c hc heq
    have hrange := (mem_cstrNat hc).1
    rw [heq] at hrange
    revert hrange
    decide
  have hnames := names_sshHostkeyFields m sha256 ticks
  refine ⟨fun f hf => ⟨isWord_sshHostkeyNames (hnames ▸ List.mem_map_of_mem hf), ?_⟩, ?_⟩
  · obtain hf | hf := List.mem_append.mp hf
    · simp only [sshHostkeyHead, List.mem_cons, List.not_mem_nil, or_false] at hf
      obtain rfl | rfl | rfl | rfl | rfl | rfl := hf
      · dsimp only
        split <;> decide +kernel
      · decide +kernel
      · decide +kernel
      · exact hsha
      · exact hdigits
      · dsimp only
        split <;> decide +kernel
    · obtain ⟨number, -, rfl⟩ := List.mem_map.mp hf
      exact fun c => sshHexText_ne_newline
  · rw [hnames]
    exact nodup_sshHostkeyNames _

/-- The texts that the calls append. -/
def sshHostkeyTexts (m : SshHostkeyMaterial) (sha256 : CStr) (ticks : UInt64) : List CStr :=
  let hexLine := fun (name : CStr) (data : List UInt8) => name ++ cstr " " ++ sshHexText data ++ cstr "\n"
  [if m.d.isSome then cstr "format orizon-ssh-rsa-private-v2\n" else cstr "format orizon-ssh-rsa-crt-v1\n",
    cstr "algorithm rsa-sha2-256\n" ++ cstr "source Orizon OS persistent SSH host identity\n",
    cstr "fingerprint-sha256 " ++ sha256 ++ cstr "\n",
    cstr "created-ticks " ++ cstrNat ticks.toNat ++ cstr "\n",
    if m.d.isSome then cstr "generator per-install-rsa-sha256\n" else cstr "generator compiled-bootstrap\n",
    match m.d with
    | none => []
    | some d => hexLine (cstr "d") d.toList,
    hexLine (cstr "n") m.n.toList, hexLine (cstr "p") m.p.toList, hexLine (cstr "q") m.q.toList,
    hexLine (cstr "dmp1") m.dmp1.toList, hexLine (cstr "dmq1") m.dmq1.toList, hexLine (cstr "iqmp") m.iqmp.toList]

theorem flatten_sshHostkeyTexts (m : SshHostkeyMaterial) (sha256 : CStr) (ticks : UInt64) :
    (sshHostkeyTexts m sha256 ticks).flatten = fieldsText (sshHostkeyFields m sha256 ticks) := by
  have hline : ∀ name data, name ++ cstr " " ++ sshHexText data ++ cstr "\n" = fieldLine (name, sshHexText data) := by
    intro name data
    simp [fieldLine, cstr]
  have hformat : ∀ hasD : Bool, (if hasD then cstr "format orizon-ssh-rsa-private-v2\n" else
      cstr "format orizon-ssh-rsa-crt-v1\n") = fieldLine (cstr "format",
        if hasD then cstr "orizon-ssh-rsa-private-v2" else cstr "orizon-ssh-rsa-crt-v1") := by decide
  have hgenerator : ∀ hasD : Bool, (if hasD then cstr "generator per-install-rsa-sha256\n" else
      cstr "generator compiled-bootstrap\n") = fieldLine (cstr "generator",
        if hasD then cstr "per-install-rsa-sha256" else cstr "compiled-bootstrap") := by decide
  have htwo : cstr "algorithm rsa-sha2-256\n" ++ cstr "source Orizon OS persistent SSH host identity\n" =
      fieldLine (cstr "algorithm", cstr "rsa-sha2-256") ++
        fieldLine (cstr "source", cstr "Orizon OS persistent SSH host identity") := by decide
  have hfingerprint : cstr "fingerprint-sha256 " ++ sha256 ++ cstr "\n" =
      fieldLine (cstr "fingerprint-sha256", sha256) := by simp [fieldLine, cstr]
  have hticks : cstr "created-ticks " ++ cstrNat ticks.toNat ++ cstr "\n" =
      fieldLine (cstr "created-ticks", cstrNat ticks.toNat) := by simp [fieldLine, cstr]
  rw [sshHostkeyTexts, hformat, hgenerator, htwo, hfingerprint, hticks]
  simp only [hline, fieldsText, sshHostkeyFields, sshHostkeyHead, SshHostkeyMaterial.numbers]
  cases m.d <;> simp

theorem length_fieldsText (m : SshHostkeyMaterial) (sha256 : CStr) (ticks : UInt64) :
    (fieldsText (sshHostkeyFields m sha256 ticks)).length =
      (if m.d.isSome then 1352 else 1085) + sha256.length + (cstrNat ticks.toNat).length := by
  rw [← flatten_sshHostkeyTexts, sshHostkeyTexts]
  simp only [List.flatten_cons, List.flatten_nil, List.length_append, length_sshHexText]
  cases m.d <;> simp [cstr] <;> omega

/-- The text is built for every key, and it fits its buffer with the NUL behind it. -/
theorem sshHostkeyText_eq (m : SshHostkeyMaterial) (ticks : UInt64) (hne : sha256 ≠ []) (hlen : sha256.length ≤ 64) :
    sshHostkeyText m sha256 ticks = some (fieldsText (sshHostkeyFields m sha256 ticks)) ∧
      (fieldsText (sshHostkeyFields m sha256 ticks)).length < sshHostkeyFileMax := by
  have hticks := length_cstrNat_le (k := 20) (by decide) (lt_trans ticks.toNat_lt (by decide))
  have hlength := length_fieldsText m sha256 ticks
  have hfits : (fieldsText (sshHostkeyFields m sha256 ticks)).length < sshHostkeyFileMax := by
    rw [hlength, sshHostkeyFileMax]
    split <;> omega
  have hfingerprint : sshHostkeyLine (cstr "fingerprint-sha256 " ++ (if sha256 = [] then cstr "none" else sha256) ++
      cstr "\n") = cstr "fingerprint-sha256 " ++ sha256 ++ cstr "\n" := by
    rw [if_neg hne]
    exact List.take_of_length_le (by simp [cstr]; omega)
  have hcreated : sshHostkeyLine (cstr "created-ticks " ++ cstrNat ticks.toNat ++ cstr "\n") =
      cstr "created-ticks " ++ cstrNat ticks.toNat ++ cstr "\n" :=
    List.take_of_length_le (by simp [cstr]; omega)
  have happends : List.Forall₂ (Appends sshHostkeyFileMax) (sshHostkeyAppends m sha256 ticks)
      (sshHostkeyTexts m sha256 ticks) := by
    have hd : Appends sshHostkeyFileMax (fun buf => match m.d with
        | none => some buf
        | some d => sshAppendHexLine sshHostkeyFileMax (cstr "d") d.toList buf)
        (match m.d with
        | none => []
        | some d => cstr "d" ++ cstr " " ++ sshHexText d.toList ++ cstr "\n") := by
      cases m.d with
      | none => simp [Appends]
      | some d => exact appends_sshAppendHexLine _ _ _
    rw [sshHostkeyAppends, hfingerprint, hcreated]
    repeat' first
      | exact List.Forall₂.nil
      | exact appends_sshAppendText _ _
      | exact appends_sshAppendHexLine _ _ _
      | exact hd
      | apply List.Forall₂.cons
  rw [sshHostkeyText, foldlM_appends happends]
  · rw [flatten_sshHostkeyTexts, List.nil_append]
    exact ⟨rfl, hfits⟩
  · rwa [flatten_sshHostkeyTexts, List.length_nil, Nat.zero_add]

theorem copyBytes_toList {k : Nat} (v : Vector UInt8 k) : copyBytes k v.toList = v := by
  ext i hi
  simp [copyBytes]

theorem sshReadHostkeyText_fieldsText (m : SshHostkeyMaterial) (ticks : UInt64)
    (hsha : ∀ c ∈ sha256, c ≠ cchar '\n') :
    sshReadHostkeyText (fieldsText (sshHostkeyFields m sha256 ticks)) = some m := by
  obtain ⟨hok, hnodup⟩ := sshHostkeyFields_ok m ticks hsha
  have hread : ∀ number ∈ m.numbers, ∀ out : List UInt8, out.length = number.2.length →
      sshParseHexField (fieldsText (sshHostkeyFields m sha256 ticks)) number.1 out = (true, number.2) := by
    intro number hnumber out hlen
    refine sshParseHexField_of_mem hok hnodup ?_ hlen
    rw [sshHostkeyFields]
    exact List.mem_append_right _ (List.mem_map_of_mem (f := fun number => (number.1, sshHexText number.2)) hnumber)
  have hformat : strstrFound (fieldsText (sshHostkeyFields m sha256 ticks))
      (if m.d.isSome then cstr "format orizon-ssh-rsa-private-v2" else cstr "format orizon-ssh-rsa-crt-v1") = true := by
    have hline : ∀ hasD : Bool, fieldLine (cstr "format",
        if hasD then cstr "orizon-ssh-rsa-private-v2" else cstr "orizon-ssh-rsa-crt-v1") =
          (if hasD then cstr "format orizon-ssh-rsa-private-v2" else cstr "format orizon-ssh-rsa-crt-v1") ++
            [cchar '\n'] := by decide
    rw [strstrFound_iff, fieldsText, sshHostkeyFields, sshHostkeyHead, List.cons_append, List.flatMap_cons, hline,
      List.append_assoc]
    exact (List.prefix_append ..).isInfix
  have hn := hread (cstr "n", m.n.toList) (by simp [SshHostkeyMaterial.numbers]) (List.replicate 128 0) (by simp)
  have hp := hread (cstr "p", m.p.toList) (by simp [SshHostkeyMaterial.numbers]) (List.replicate 64 0) (by simp)
  have hq := hread (cstr "q", m.q.toList) (by simp [SshHostkeyMaterial.numbers]) (List.replicate 64 0) (by simp)
  have hdmp1 := hread (cstr "dmp1", m.dmp1.toList) (by simp [SshHostkeyMaterial.numbers]) (List.replicate 64 0) (by simp)
  have hdmq1 := hread (cstr "dmq1", m.dmq1.toList) (by simp [SshHostkeyMaterial.numbers]) (List.replicate 64 0) (by simp)
  have hiqmp := hread (cstr "iqmp", m.iqmp.toList) (by simp [SshHostkeyMaterial.numbers]) (List.replicate 64 0) (by simp)
  dsimp only at hn hp hq hdmp1 hdmq1 hiqmp
  cases hd : m.d with
  | none =>
      have hno : sshParseHexField (fieldsText (sshHostkeyFields m sha256 ticks)) (cstr "d") (List.replicate 128 0) =
          (false, List.replicate 128 0) := by
        refine sshParseHexField_of_not_mem hok (isWord_sshHostkeyNames (show _ ∈ sshHostkeyNames true by decide)) ?_ _
        rw [names_sshHostkeyFields, hd]
        decide
      rw [hd] at hformat
      simp only [Option.isSome_none, Bool.false_eq_true, if_false] at hformat
      simp only [sshReadHostkeyText, hformat, hn, hp, hq, hdmp1, hdmq1, hiqmp, hno, copyBytes_toList]
      simp [← hd]
  | some d =>
      have hyes := hread (cstr "d", d.toList) (by simp [SshHostkeyMaterial.numbers, hd]) (List.replicate 128 0) (by simp)
      dsimp only at hyes
      rw [hd] at hformat
      simp only [Option.isSome_some, if_true] at hformat
      simp only [sshReadHostkeyText, hformat, hn, hp, hq, hdmp1, hdmq1, hiqmp, hyes, copyBytes_toList]
      simp [← hd]

end Key

/-! ## The fingerprint -/

theorem mem_sha256Hex {digest : Sha256Digest} {c : UInt8} (h : c ∈ sha256Hex digest) : c ∈ hexDigits := by
  have hdigit : ∀ i : Fin 16, hexDigits.getD i 0 ∈ hexDigits := by decide
  obtain ⟨b, -, hc⟩ := List.mem_flatMap.mp h
  obtain ⟨hhi, hlo, -⟩ := nibbles b
  simp only [List.mem_cons, List.not_mem_nil, or_false] at hc
  obtain rfl | rfl := hc
  · exact hdigit ⟨_, hhi⟩
  · exact hdigit ⟨_, hlo⟩

theorem length_sha256Hex (digest : Sha256Digest) : (sha256Hex digest).length = 64 := by
  rw [sha256Hex, List.length_flatMap]
  simp

theorem mem_sha256BufferHex {data : List UInt8} {c : UInt8} (h : c ∈ sha256BufferHex data) : c ∈ hexDigits :=
  mem_sha256Hex h

theorem length_sha256BufferHex (data : List UInt8) : (sha256BufferHex data).length = 64 := length_sha256Hex _

theorem fingerprint_cstr (data : List UInt8) :
    (bytesCstr (sha256BufferHex data)).length = 64 ∧ ∀ c ∈ bytesCstr (sha256BufferHex data), c ≠ cchar '\n' := by
  have hdigits : ∀ c ∈ hexDigits, c ≠ 0 ∧ c ≠ 0x0a := by decide +kernel
  have htext : strBytes (bytesCstr (sha256BufferHex data)) = sha256BufferHex data := by
    rw [strBytes_bytesCstr, List.takeWhile_eq_self_iff]
    exact fun c hc => by simpa using (hdigits c (mem_sha256BufferHex hc)).1
  constructor
  · rw [← length_strBytes, htext]
    exact length_sha256BufferHex _
  · rintro c hc rfl
    have hmem : (cchar '\n').val ∈ sha256BufferHex data := htext ▸ List.mem_map_of_mem hc
    exact (hdigits _ (mem_sha256BufferHex hmem)).2 rfl

theorem length_sshMpintBody_le (data : List UInt8) : (sshMpintBody data).length ≤ data.length + 1 := by
  have hdrop := (List.dropWhile_suffix (· = (0 : UInt8)) (l := data)).length_le
  unfold sshMpintBody
  dsimp only
  split
  · rw [List.length_cons]
    omega
  · omega

theorem sshHostKeyBlob_isSome {n : List UInt8} (hlen : n.length ≤ 128) : (sshHostKeyBlob n).isSome := by
  obtain ⟨head, hhead, hheadLen⟩ : ∃ head, (do
      let out ← sshPutCstring 192 [] "ssh-rsa"
      sshPutMpint 192 out [0x01, 0x00, 0x01]) = some head ∧ head.length = 18 := ⟨_, rfl, rfl⟩
  have hbody := length_sshMpintBody_le n
  have hlast : (sshPutMpint 192 head n).isSome := by
    rw [sshPutMpint, sshPutString, if_neg (by omega)]
    rfl
  cases hfirst : sshPutCstring 192 [] "ssh-rsa" with
  | none => simp [hfirst] at hhead
  | some out =>
      rw [hfirst] at hhead
      have hsecond : sshPutMpint 192 out [0x01, 0x00, 0x01] = some head := hhead
      rw [sshHostKeyBlob, hfirst]
      dsimp only
      rwa [hsecond]

/-! ## Writing and loading -/

section RoundTrip

variable {x y : SshIdentity H} {ticks : UInt64} {blob : List UInt8}

/-- The text of the file of a key with its blob. -/
def sshHostkeyFileText (m : SshHostkeyMaterial) (blob : List UInt8) (ticks : UInt64) : CStr :=
  fieldsText (sshHostkeyFields m (bytesCstr (sha256BufferHex blob)) ticks)

theorem sshHostkeyFileText_eq (m : SshHostkeyMaterial) (blob : List UInt8) (ticks : UInt64) :
    sshHostkeyText m (bytesCstr (sha256BufferHex blob)) ticks = some (sshHostkeyFileText m blob ticks) ∧
      (sshHostkeyFileText m blob ticks).length < sshHostkeyFileMax := by
  have hlen := (fingerprint_cstr blob).1
  refine sshHostkeyText_eq m ticks ?_ (by omega)
  intro hnil
  rw [hnil] at hlen
  cases hlen

/-- The write of the text. -/
def SshIdentity.putHostkey (x : SshIdentity H) (text : CStr) : PutOutcome × Vfs H :=
  vfsPut (vfsMkdir x.vfs (cstr "/system")).2 orizonSshHostkeyPath (oCreat ||| oWronly ||| oTrunc) (strBytes text)

theorem writeHostkeyFile_eq (ticks : UInt64) (hblob : sshHostKeyBlob x.ssh.hostkey.material.n.toList = some blob) :
    let text := sshHostkeyFileText x.ssh.hostkey.material blob ticks
    ((x.writeHostkeyFile ticks).1 = true ↔ (x.putHostkey text).1 = .done) ∧
      (x.writeHostkeyFile ticks).2.vfs = (x.putHostkey text).2 ∧
      (x.writeHostkeyFile ticks).2.ssh.hostkey.blob = blob ∧
      (x.writeHostkeyFile ticks).2.ssh.hostkey.sha256 = sha256BufferHex blob := by
  dsimp only
  unfold SshIdentity.writeHostkeyFile sshRebuildHostKeyBlob SshIdentity.putHostkey
  rw [hblob]
  simp only [Bool.not_true, Bool.false_eq_true, if_false, (sshHostkeyFileText_eq _ blob ticks).1]
  split
  · next hdone => simp [hdone, sshSetHostkeyReport]
  · next hdone => simp [hdone]

omit [Allocator H] in
theorem sshInstallHostkey_eq {m : SshHostkeyMaterial} (hblob : sshHostKeyBlob m.n.toList = some blob) (s : SshState) :
    (sshInstallHostkey m s).1 = true ∧ (sshInstallHostkey m s).2.hostkey = ⟨m, true, sha256BufferHex blob, blob⟩ := by
  simp only [sshInstallHostkey, sshRebuildHostKeyBlob, sshInstallHostkeyMaterial, hblob, if_true]
  simp [sshSetHostkeyReport]

theorem loadHostkeyFile_of_text {text : CStr} {m : SshHostkeyMaterial} (hne : text ≠ [])
    (hread : sshReadHostkeyText text = some m) (hblob : sshHostKeyBlob m.n.toList = some blob)
    (hget : (vfsGet y.vfs orizonSshHostkeyPath (sshHostkeyFileMax - 1)).1 = some (.ok (strBytes text))) :
    y.loadHostkeyFile.1 = true ∧ y.loadHostkeyFile.2.ssh.hostkey.material = m ∧
      y.loadHostkeyFile.2.ssh.hostkey.blob = blob ∧ y.loadHostkeyFile.2.ssh.hostkey.sha256 = sha256BufferHex blob := by
  have htext := bytesCstr_strBytes text
  obtain ⟨c, bytes, hcons⟩ :=
      List.exists_cons_of_ne_nil (l := strBytes text) (fun hnil => hne (List.map_eq_nil_iff.mp hnil))
  rw [hcons] at hget htext
  unfold SshIdentity.loadHostkeyFile
  dsimp only
  rw [hget]
  dsimp only
  obtain ⟨hok, hkey⟩ := sshInstallHostkey_eq hblob y.ssh
  rw [htext, hread]
  simp [hok, hkey]

theorem fileAt_putHostkey {text : CStr} (hlen : text.length < sshHostkeyFileMax)
    (hdone : (x.putHostkey text).1 = .done) :
    (x.putHostkey text).2.vfsInitialized = true ∧ (findFreeFile (x.putHostkey text).2).isSome ∧
      fileAt (x.putHostkey text).2 orizonSshHostkeyPath = some (strBytes text) := by
  have hsmall : (strBytes text).length < 2 ^ 64 := by
    rw [length_strBytes]
    exact lt_trans hlen (by decide)
  unfold SshIdentity.putHostkey at hdone ⊢
  refine ⟨vfsInitialized_vfsPut _ _ _ _, findFreeFile_vfsPut ?_, ?_⟩
  · rw [hdone]
    simp
  · exact fileAt_vfsPut_trunc (by decide) (by decide) hsmall hdone

/-- What `ssh_write_hostkey_file` wrote for a key, `ssh_load_hostkey_file` restores: the key's
numbers, its blob and its fingerprint.  The text of every key fits its buffer, and the file can be
read in any later state that has it and a free handle, such as the one after the write. -/
theorem loadHostkeyFile_writeHostkeyFile (x : SshIdentity H) (ticks : UInt64) :
    (∃ blob text, sshHostKeyBlob x.ssh.hostkey.material.n.toList = some blob ∧
        sshHostkeyText x.ssh.hostkey.material (bytesCstr (sha256BufferHex blob)) ticks = some text ∧
        text.length < sshHostkeyFileMax) ∧
      ((x.writeHostkeyFile ticks).1 = true →
        (x.writeHostkeyFile ticks).2.vfs.vfsInitialized = true ∧
        (findFreeFile (x.writeHostkeyFile ticks).2.vfs).isSome ∧
        ∀ y : SshIdentity H, y.vfs.vfsInitialized = true → (findFreeFile y.vfs).isSome →
          fileAt y.vfs orizonSshHostkeyPath = fileAt (x.writeHostkeyFile ticks).2.vfs orizonSshHostkeyPath →
          y.loadHostkeyFile.1 = true ∧
          y.loadHostkeyFile.2.ssh.hostkey.material = x.ssh.hostkey.material ∧
          y.loadHostkeyFile.2.ssh.hostkey.blob = (x.writeHostkeyFile ticks).2.ssh.hostkey.blob ∧
          y.loadHostkeyFile.2.ssh.hostkey.sha256 = (x.writeHostkeyFile ticks).2.ssh.hostkey.sha256) := by
  obtain ⟨blob, hblob⟩ := Option.isSome_iff_exists.mp
    (sshHostKeyBlob_isSome (n := x.ssh.hostkey.material.n.toList) (by simp))
  obtain ⟨htext, hfits⟩ := sshHostkeyFileText_eq x.ssh.hostkey.material blob ticks
  refine ⟨⟨blob, _, hblob, htext, hfits⟩, fun hwritten => ?_⟩
  obtain ⟨hiff, hvfs, hblob', hsha⟩ := writeHostkeyFile_eq ticks hblob
  have hdone := hiff.mp hwritten
  rw [hvfs, hblob', hsha]
  obtain ⟨hinit, hfree, hfile⟩ := fileAt_putHostkey hfits hdone
  refine ⟨hinit, hfree, fun y hinit hfree hsame => ?_⟩
  have hne : sshHostkeyFileText x.ssh.hostkey.material blob ticks ≠ [] := by
    have hlength := length_fieldsText x.ssh.hostkey.material (bytesCstr (sha256BufferHex blob)) ticks
    refine List.ne_nil_of_length_pos ?_
    rw [sshHostkeyFileText, hlength]
    split <;> omega
  refine loadHostkeyFile_of_text hne (sshReadHostkeyText_fieldsText _ ticks (fingerprint_cstr blob).2) hblob ?_
  rw [vfsGet_fileAt hinit (hsame.trans hfile) hfree, List.take_of_length_le]
  rw [length_strBytes]
  omega

/-- The server after boot. -/
def sampleIdentity : SshIdentity KernelHeap :=
  ⟨sshBoot, ⟨[], [], false, false⟩, vfsInit (bootVfs KernelHeap.boot noDisk bootPersist)⟩

/-- The compiled key is written after boot and loaded again. -/
theorem loadHostkeyFile_boot :
    (sampleIdentity.writeHostkeyFile 0).1 = true ∧
      (sampleIdentity.writeHostkeyFile 0).2.loadHostkeyFile.2.ssh.hostkey.material = sshBoot.hostkey.material := by
  obtain ⟨blob, hblob⟩ := Option.isSome_iff_exists.mp
    (sshHostKeyBlob_isSome (n := sampleIdentity.ssh.hostkey.material.n.toList) (by simp))
  have hlen : (strBytes (sshHostkeyFileText sampleIdentity.ssh.hostkey.material blob 0)).length = 1150 := by
    rw [length_strBytes, sshHostkeyFileText, length_fieldsText, (fingerprint_cstr blob).1]
    decide
  have hdone : (sampleIdentity.putHostkey (sshHostkeyFileText sampleIdentity.ssh.hostkey.material blob 0)).1 =
      .done := by
    have hopened : ¬ (vfsOpen (vfsMkdir sampleIdentity.vfs (cstr "/system")).2 orizonSshHostkeyPath
        (oCreat ||| oWronly ||| oTrunc)).1 = none := by decide +kernel
    have hroom : putHasRoom (vfsMkdir sampleIdentity.vfs (cstr "/system")).2 orizonSshHostkeyPath
        (oCreat ||| oWronly ||| oTrunc) 1150 = true := by decide +kernel
    have hbase : putBase (vfsMkdir sampleIdentity.vfs (cstr "/system")).2 orizonSshHostkeyPath
        (oCreat ||| oWronly ||| oTrunc) = [] := if_pos (by decide)
    rw [SshIdentity.putHostkey, vfsPut_outcome (by decide +kernel) (by decide) (.inl (by decide)), if_neg hopened, hlen,
      if_pos (.inr hroom)]
    rw [hbase, hlen]
    decide
  have hwritten := (writeHostkeyFile_eq 0 hblob).1.mpr hdone
  obtain ⟨hinit, hfree, hload⟩ := (loadHostkeyFile_writeHostkeyFile sampleIdentity 0).2 hwritten
  exact ⟨hwritten, (hload _ hinit hfree rfl).2.1⟩

/-! ## The answers of the file -/

/-- The key that `ssh_load_hostkey_file` finds in the file. -/
def SshIdentity.hostkeyAnswer (x : SshIdentity H) : Option SshHostkeyMaterial :=
  match (vfsGet x.vfs orizonSshHostkeyPath (sshHostkeyFileMax - 1)).1 with
  | some (.ok (c :: bytes)) => sshReadHostkeyText (bytesCstr (c :: bytes))
  | _ => none

/-- The file answers the question that the server asks when it loads its key. -/
theorem loadHostkeyFile_answers {env : SshEnv} (h : env.hostkeyFile x.ssh.asked = x.hostkeyAnswer) :
    (sshLoadHostkeyFile env x.ssh).1 = x.loadHostkeyFile.1 ∧
      (sshLoadHostkeyFile env x.ssh).2.hostkey = x.loadHostkeyFile.2.ssh.hostkey := by
  rw [sshLoadHostkeyFile, h]
  unfold SshIdentity.hostkeyAnswer SshIdentity.loadHostkeyFile
  generalize vfsGet x.vfs orizonSshHostkeyPath (sshHostkeyFileMax - 1) = get
  obtain ⟨_ | (_ | _ | ⟨c, bytes⟩), v⟩ := get
  · exact ⟨rfl, rfl⟩
  · exact ⟨rfl, rfl⟩
  · exact ⟨rfl, rfl⟩
  · dsimp only
    cases sshReadHostkeyText (bytesCstr (c :: bytes)) with
    | none => exact ⟨rfl, rfl⟩
    | some m =>
        obtain ⟨blob, hblob⟩ := Option.isSome_iff_exists.mp (sshHostKeyBlob_isSome (n := m.n.toList) (by simp))
        obtain ⟨hok, hkey⟩ := sshInstallHostkey_eq hblob x.ssh
        obtain ⟨hok', hkey'⟩ := sshInstallHostkey_eq hblob x.ssh.ask
        dsimp only
        rw [hok', hkey', hok]
        simp [hkey]

end RoundTrip

end Orizon
