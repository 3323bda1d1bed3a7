import YumeDisk.Lib.Quote
import YumeDisk.Server.Auth

/-!
# Configuration files (`internal/config/config.go`)

What the server writes into its configuration file and what it reads back.

* `parseTOML`: sections, comments and `key = value` lines.
* `parse_entry`: a written line is read as its key and its quoted value.
* `load_save`: **a configuration that was saved is the one that is loaded.**
-/

namespace YumeDisk.Server.Config

open YumeDisk.Lib

/-- The text of an error. -/
abbrev GoError := Bytes

/-- What the configuration uses of the standard library and does not need to know more about. -/
structure Runtime where
  /-- The characters from `U+0100` on that print. -/
  printTable : Char → Bool
  /-- `strconv.Unquote`. -/
  unquote : Bytes → Option Bytes
  sha512 : Bytes → Bytes

def Runtime.quote (go : Runtime) (s : Bytes) : Bytes := Lib.quote go.printTable s

/-! ## Claim codes (`internal/auth/claim_code.go`) -/

def minClaimSecretLength : Nat := 64

def minClaimCodeLength : Nat := diskIDLength + minClaimSecretLength

structure Material where
  claimCode : Bytes
  diskID : DiskID
  authVerifier : Bytes
deriving DecidableEq, Repr

def parseClaimCode (go : Runtime) (claimCode : Bytes) : Except GoError Material :=
  if claimCode.length < minClaimCodeLength then
    throw (text "claim code length must be >= 80")
  else if ¬isAlphaNumericASCII claimCode then
    throw (text "claim code must use 0-9a-zA-Z only")
  else
    return ⟨claimCode, claimCode.take diskIDLength, go.sha512 claimCode⟩

/-! ## The configurations -/

def defaultWholeListenAddr : Bytes := text "127.0.0.1:9736"

def defaultGatewayClientListenAddr : Bytes := text "127.0.0.1:9736"

def defaultGatewayStorerListenAddr : Bytes := text "127.0.0.1:9836"

def defaultStorerGatewayAddr : Bytes := text "127.0.0.1:9836"

def storerRoleWhole : Bytes := text "whole"

def storerRoleStorer : Bytes := text "storer"

structure StorerWholeConfig where
  listenAddr : Bytes
deriving DecidableEq, Repr

structure StorerRemoteConfig where
  gatewayAddr : Bytes
  gatewayToken : Bytes
deriving DecidableEq, Repr

structure StorerConfig where
  role : Bytes
  storageFilePath : Bytes
  claimCodeRW : Bytes
  claimCodeRO : Bytes
  whole : StorerWholeConfig
  storer : StorerRemoteConfig
deriving DecidableEq, Repr

structure GatewayClientConfig where
  listenAddr : Bytes
deriving DecidableEq, Repr

structure GatewayStorerConfig where
  listenAddr : Bytes
  gatewayToken : Bytes
deriving DecidableEq, Repr

structure GatewayConfig where
  client : GatewayClientConfig
  storer : GatewayStorerConfig
deriving DecidableEq, Repr

/-- The check of a field that must not be blank. -/
def requireText (s : Bytes) (message : String) : Except GoError Unit :=
  if trimSpace s = [] then throw (text message) else return

/-- An error with what was being done. -/
def wrap {α : Type} (doing : Bytes) : Except GoError α → Except GoError α
  | .ok a => .ok a
  | .error e => .error (doing ++ e)

/-- `StorerConfig.Validate`. -/
def StorerConfig.validate (go : Runtime) (c : StorerConfig) : Except GoError Unit := do
  if c.role ≠ storerRoleWhole ∧ c.role ≠ storerRoleStorer then
    throw (text "invalid role: " ++ go.quote c.role)
  requireText c.storageFilePath "storage_file_path must not be empty"
  let materialRW ← wrap (text "invalid claim_code_rw: ") (parseClaimCode go c.claimCodeRW)
  if trimSpace c.claimCodeRO ≠ [] then
    let materialRO ← wrap (text "invalid claim_code_ro: ") (parseClaimCode go c.claimCodeRO)
    if materialRO.diskID = materialRW.diskID then
      throw (text "claim_code_ro must derive a different disk_id")
  if c.role = storerRoleWhole then
    requireText c.whole.listenAddr "whole.listen_addr must not be empty"
  else
    requireText c.storer.gatewayAddr "storer.gateway_addr must not be empty"
    requireText c.storer.gatewayToken "storer.gateway_token must not be empty"

/-- `GatewayConfig.Validate`. -/
def GatewayConfig.validate (c : GatewayConfig) : Except GoError Unit := do
  requireText c.client.listenAddr "client.listen_addr must not be empty"
  requireText c.storer.listenAddr "storer.listen_addr must not be empty"
  requireText c.storer.gatewayToken "storer.gateway_token must not be empty"

/-! ## Writing -/

/-- A line of the format, `key = %q`. -/
def entry (go : Runtime) (key : String) (value : Bytes) : Bytes :=
  text key ++ text " = " ++ go.quote value ++ [10]

/-- What `SaveStorer` writes. -/
def StorerConfig.content (go : Runtime) (c : StorerConfig) : Bytes :=
  entry go "role" c.role ++ entry go "storage_file_path" c.storageFilePath ++
    entry go "claim_code_rw" c.claimCodeRW ++ entry go "claim_code_ro" c.claimCodeRO ++
    text "\n[whole]\n" ++ entry go "listen_addr" c.whole.listenAddr ++
    text "\n[storer]\n" ++ entry go "gateway_addr" c.storer.gatewayAddr ++
    entry go "gateway_token" c.storer.gatewayToken

/-- What `SaveGateway` writes. -/
def GatewayConfig.content (go : Runtime) (c : GatewayConfig) : Bytes :=
  text "[client]\n" ++ entry go "listen_addr" c.client.listenAddr ++
    text "\n[storer]\n" ++ entry go "listen_addr" c.storer.listenAddr ++
    entry go "gateway_token" c.storer.gatewayToken

/-- What the system says when a file is read or written. -/
structure Os where
  readFile : Bytes → Except GoError Bytes
  /-- `os.MkdirAll` of the directory of a file. -/
  mkdirAll : Bytes → Option GoError
  writeFile : Bytes → Option GoError

def Os.save (os : Os) (path content : Bytes) : Except GoError Os :=
  match os.mkdirAll path with
  | some e => throw (text "create config directory: " ++ e)
  | none =>
    match os.writeFile path with
    | some e => throw (text "write config file: " ++ e)
    | none => return { os with readFile := Function.update os.readFile path (.ok content) }

def saveStorer (go : Runtime) (os : Os) (path : Bytes) (cfg : StorerConfig) :
    Except GoError Os := do
  cfg.validate go
  os.save path (cfg.content go)

def saveGateway (go : Runtime) (os : Os) (path : Bytes) (cfg : GatewayConfig) :
    Except GoError Os := do
  cfg.validate
  os.save path (cfg.content go)

/-! ## Reading -/

/-- The characters of a line that are not in a comment. -/
def stripFrom : Bool → Bool → List Char → List Char
  | _, _, [] => []
  | inQuotes, escaped, r :: rs =>
    if escaped then r :: stripFrom inQuotes false rs
    else if r = '\\' ∧ inQuotes then r :: stripFrom inQuotes true rs
    else if r = '"' then r :: stripFrom (!inQuotes) false rs
    else if r = '#' ∧ ¬inQuotes then []
    else r :: stripFrom inQuotes false rs

/-- `stripInlineComment`; a byte that is no character is written as `U+FFFD`. -/
def stripInlineComment (line : Bytes) : Bytes :=
  utf8 (stripFrom false false ((runes line).map fun r => r.char.getD '\uFFFD'))

/-- A Go map; the entry that was set last comes first. -/
abbrev Values := List (Bytes × Bytes)

/-- The variables of `parseTOML`. -/
structure ParseState where
  values : Values := []
  lineNo : Nat := 0
  sectionName : Bytes := []
deriving DecidableEq, Repr

def lineError (lineNo : Nat) (message : String) : GoError :=
  text "line " ++ text (toString lineNo) ++ text message

/-- The body of the loop of `parseTOML`. -/
def parseLine (s : ParseState) (scanned : Bytes) : Except GoError ParseState :=
  let s := { s with lineNo := s.lineNo + 1 }
  let line := trimSpace (stripInlineComment scanned)
  if line = [] then return s
  else if line.head? = some 91 then
    if line.getLast? ≠ some 93 then throw (lineError s.lineNo ": invalid section header")
    else
      let sectionName := trimSpace ((line.drop 1).dropLast)
      if sectionName = [] ∨ (46 : UInt8) ∈ sectionName then
        throw (lineError s.lineNo ": invalid section name")
      else return { s with sectionName }
  else
    match cut 61 line with
    | none => throw (lineError s.lineNo ": missing '='")
    | some (key, raw) =>
      let key := trimSpace key
      let raw := trimSpace raw
      if key = [] then throw (lineError s.lineNo ": empty key")
      else
        let fullKey := if s.sectionName ≠ [] then s.sectionName ++ 46 :: key else key
        return { s with values := (fullKey, raw) :: s.values }

/-- `bufio.MaxScanTokenSize`. -/
def maxScanTokenSize : Nat := 65536

/-- `bufio.dropCR`. -/
def dropCR (line : Bytes) : Bytes := if line.getLast? = some 13 then line.dropLast else line

/-- The loop of `parseTOML` over the lines that the scanner finds. -/
def parseLines (s : ParseState) : List Bytes → Except GoError ParseState
  | [] => return s
  | line :: rest => do
    if maxScanTokenSize ≤ line.length then
      throw (text "bufio.Scanner: token too long")
    let s ← parseLine s (dropCR line)
    parseLines s rest

def parseTOML (content : Bytes) : Except GoError Values := do
  let s ← parseLines {} (lines content)
  return s.values

def loadKeyValues (os : Os) (path : Bytes) : Except GoError Values := do
  let data ← os.readFile path
  wrap (text "parse " ++ path ++ text ": ") (parseTOML data)

/-- `strings.Trim(raw, "\"")`. -/
def trimQuotes (raw : Bytes) : Bytes := (raw.dropWhile (· = 34)).rdropWhile (· = 34)

def getString (go : Runtime) (values : Values) (key : String) (fallback : Bytes) : Bytes :=
  match values.lookup (text key) with
  | none => fallback
  | some raw => (go.unquote raw).getD (trimSpace (trimQuotes raw))

/-- The fields of a `StorerConfig` among the values that were read. -/
def StorerConfig.ofValues (go : Runtime) (values : Values) : StorerConfig where
  role := getString go values "role" []
  storageFilePath := getString go values "storage_file_path" []
  claimCodeRW := getString go values "claim_code_rw" []
  claimCodeRO := getString go values "claim_code_ro" []
  whole := ⟨getString go values "whole.listen_addr" defaultWholeListenAddr⟩
  storer := ⟨getString go values "storer.gateway_addr" defaultStorerGatewayAddr,
    getString go values "storer.gateway_token" []⟩

def GatewayConfig.ofValues (go : Runtime) (values : Values) : GatewayConfig where
  client := ⟨getString go values "client.listen_addr" defaultGatewayClientListenAddr⟩
  storer := ⟨getString go values "storer.listen_addr" defaultGatewayStorerListenAddr,
    getString go values "storer.gateway_token" []⟩

def loadStorer (go : Runtime) (os : Os) (path : Bytes) : Except GoError StorerConfig := do
  let values ← loadKeyValues os path
  let cfg := StorerConfig.ofValues go values
  cfg.validate go
  return cfg

def loadGateway (go : Runtime) (os : Os) (path : Bytes) : Except GoError GatewayConfig := do
  let values ← loadKeyValues os path
  let cfg := GatewayConfig.ofValues go values
  cfg.validate
  return cfg

/-! ## A line that was written -/

/-- A character of a key: nothing that a line is cut or stripped at. -/
def KeyChar (c : Char) : Prop := isSpace c = false ∧ c ∉ ['"', '#', '=', '[', '.']

instance : DecidablePred KeyChar := fun _ => inferInstanceAs (Decidable (_ ∧ _))

def IsKey (key : String) : Prop := key.toList ≠ [] ∧ ∀ c ∈ key.toList, KeyChar c

instance : DecidablePred IsKey := fun key =>
  decidable_of_iff (key.toList ≠ [] ∧ key.toList.all (decide <| KeyChar ·) = true)
    (by simp [IsKey])

theorem IsKey.dropWhile {key : String} (h : IsKey key) :
    key.toList.dropWhile isSpace = key.toList :=
  List.dropWhile_eq_self_iff.2 fun hlen => by simp [(h.2 _ (List.getElem_mem hlen)).1]

theorem IsKey.rdropWhile {key : String} (h : IsKey key) :
    key.toList.rdropWhile isSpace = key.toList :=
  List.rdropWhile_eq_self_iff.2 fun hne => by simp [(h.2 _ (List.getLast_mem hne)).1]

theorem stripFrom_append {cs : List Char} (h : ∀ c ∈ cs, c ≠ '"' ∧ c ≠ '#') (rest : List Char) :
    stripFrom false false (cs ++ rest) = cs ++ stripFrom false false rest := by
  induction cs with
  | nil => rfl
  | cons c cs ih =>
    obtain ⟨hquote, hcomment⟩ := h c List.mem_cons_self
    have hrest := ih fun d hd => h d (List.mem_cons_of_mem _ hd)
    rw [List.cons_append, stripFrom, if_neg (by decide), if_neg (by simp), if_neg hquote,
      if_neg (by simp [hcomment]), hrest, List.cons_append]

theorem stripFrom_plain {cs : List Char} (h : ∀ c ∈ cs, Plain c) (rest : List Char) :
    stripFrom true false (cs ++ rest) = cs ++ stripFrom true false rest := by
  induction cs with
  | nil => rfl
  | cons c cs ih =>
    obtain ⟨hquote, hescape, -⟩ := h c List.mem_cons_self
    have hrest := ih fun d hd => h d (List.mem_cons_of_mem _ hd)
    rw [List.cons_append, stripFrom, if_neg (by decide), if_neg (by simp [hescape]),
      if_neg hquote, if_neg (by simp), hrest, List.cons_append]

/-- Inside the quotes a piece stays, and does not end them. -/
theorem stripFrom_piece {p : List Char} (h : Piece p) (rest : List Char) :
    stripFrom true false (p ++ rest) = p ++ stripFrom true false rest := by
  cases h with
  | plain hc => exact stripFrom_plain (fun d hd => List.mem_singleton.1 hd ▸ hc) rest
  | escape hc hcs =>
    rw [List.cons_append, stripFrom, if_neg (by decide), if_pos ⟨rfl, rfl⟩, List.cons_append,
      stripFrom, if_pos rfl, stripFrom_plain hcs]
    rfl

/-- **A quoted text has no comment.** -/
theorem stripFrom_quoteChars (table : Char → Bool) (s : Bytes) :
    stripFrom false false (quoteChars table s) = quoteChars table s := by
  obtain ⟨pieces, hpieces, heq⟩ := quoteChars_pieces table s
  have hinside : ∀ ps : List (List Char), (∀ p ∈ ps, Piece p) →
      stripFrom true false (ps.flatten ++ ['"']) = ps.flatten ++ ['"'] := by
    intro ps
    induction ps with
    | nil => intro _; rfl
    | cons p ps ih =>
      intro hps
      have hrest := ih fun q hq => hps q (List.mem_cons_of_mem _ hq)
      rw [List.flatten_cons, List.append_assoc, stripFrom_piece (hps p List.mem_cons_self), hrest]
  rw [heq, stripFrom, if_neg (by decide), if_neg (by decide), if_pos rfl, Bool.not_false,
    hinside pieces hpieces]

theorem stripInlineComment_utf8 (cs : List Char) :
    stripInlineComment (utf8 cs) = utf8 (stripFrom false false cs) := by
  have hwritten : (fun r : Rune => r.char.getD '\uFFFD') ∘ Rune.of = id := rfl
  rw [stripInlineComment, runes_utf8, List.map_map, hwritten, List.map_id]

/-! ## The lines of a file that was written -/

/-- What a written file consists of. -/
inductive Item where
  | blank
  | header (name : String)
  | entry (key : String) (value : Bytes)

namespace Item

/-- The characters of the line. -/
def chars (go : Runtime) : Item → List Char
  | blank => []
  | header name => '[' :: (name.toList ++ [']'])
  | entry key value => key.toList ++ ' ' :: '=' :: ' ' :: quoteChars go.printTable value

def render (go : Runtime) (item : Item) : Bytes := utf8 (item.chars go) ++ [10]

def WellFormed : Item → Prop
  | blank => True
  | header name => IsKey name
  | entry key _ => IsKey key

/-- What reading the line does. -/
def read (go : Runtime) (s : ParseState) : Item → ParseState
  | blank => { s with lineNo := s.lineNo + 1 }
  | header name => { s with lineNo := s.lineNo + 1, sectionName := text name }
  | entry key value =>
    { s with
      lineNo := s.lineNo + 1
      values := (if s.sectionName ≠ [] then s.sectionName ++ 46 :: text key else text key,
        go.quote value) :: s.values }

end Item

theorem KeyChar.ne {c d : Char} (h : KeyChar c) (hd : ¬KeyChar d) : c ≠ d := fun heq => hd (heq ▸ h)

theorem head?_utf8_cons {c d : Char} (cs : List Char) (hd : d.toNat < 128) (h : c ≠ d) :
    (utf8 (c :: cs)).head? ≠ some (UInt8.ofNat d.toNat) := by
  intro hhead
  obtain ⟨b, bs, hbs⟩ := List.exists_cons_of_ne_nil (utf8EncodeChar_ne_nil c)
  rw [utf8_cons, hbs, List.cons_append, List.head?_cons, Option.some.injEq] at hhead
  have hmem : UInt8.ofNat d.toNat ∈ utf8 [c] := by
    rw [utf8_cons, utf8_nil, List.append_nil, hbs, hhead]
    exact List.mem_cons_self
  exact h (List.mem_singleton.1 (mem_utf8 hd hmem)).symm

/-- A line that ends with a character is no blank line, and ends with no carriage return. -/
theorem dropCR_utf8 (cs : List Char) {c : Char} (hc : c ∈ [']', '"']) :
    dropCR (utf8 (cs ++ [c])) = utf8 (cs ++ [c]) := by
  have hlast : (utf8 (cs ++ [c])).getLast? ≠ some 13 := by
    rw [utf8_append]
    simp only [List.mem_cons, List.not_mem_nil, or_false] at hc
    rcases hc with rfl | rfl
    · rw [show utf8 [']'] = [93] by decide, List.getLast?_concat]
      decide
    · rw [show utf8 ['"'] = [34] by decide, List.getLast?_concat]
      decide
  rw [dropCR, if_neg hlast]

theorem parse_blank (s : ParseState) :
    parseLine s (dropCR []) = .ok { s with lineNo := s.lineNo + 1 } := rfl

theorem parse_header (s : ParseState) {name : String} (h : IsKey name) :
    parseLine s (dropCR (utf8 ('[' :: (name.toList ++ [']'])))) =
      .ok { s with lineNo := s.lineNo + 1, sectionName := text name } := by
  have hstrip : stripFrom false false ('[' :: (name.toList ++ [']'])) =
      '[' :: (name.toList ++ [']']) := by
    rw [← List.append_nil ('[' :: _), stripFrom_append, stripFrom]
    intro c hc
    rw [List.mem_cons, List.mem_append, List.mem_singleton] at hc
    rcases hc with rfl | hc | rfl
    · decide
    · exact ⟨(h.2 c hc).ne (by decide), (h.2 c hc).ne (by decide)⟩
    · decide
  have hbytes : utf8 ('[' :: (name.toList ++ [']'])) = 91 :: (text name ++ [93]) := by
    rw [utf8_cons, utf8_append]
    rfl
  have htrim : trimSpace (text name) = text name := by
    rw [text, trimSpace_utf8, h.dropWhile, h.rdropWhile]
  have hname : ¬(text name = [] ∨ (46 : UInt8) ∈ text name) := by
    rintro (hnil | hdot)
    · obtain ⟨c, cs, hcs⟩ := List.exists_cons_of_ne_nil h.1
      rw [text, hcs, utf8_cons, List.append_eq_nil_iff] at hnil
      exact utf8EncodeChar_ne_nil c hnil.1
    · exact (h.2 '.' (mem_utf8 (c := '.') (by decide) hdot)).ne (by decide) rfl
  rw [← List.cons_append, dropCR_utf8 _ (by decide), List.cons_append, parseLine,
    stripInlineComment_utf8, hstrip, trimSpace_eq (by decide) (by decide), hbytes]
  dsimp only
  rw [if_neg (List.cons_ne_nil _ _), if_pos List.head?_cons, if_neg, List.drop_one, List.tail_cons,
    List.dropLast_concat, htrim, if_neg hname]
  · rfl
  · rw [← List.cons_append, List.getLast?_concat]
    exact fun hne => hne rfl

/-- **A written entry is read as its key and its quoted value.** -/
theorem parse_entry (go : Runtime) (s : ParseState) {key : String} (h : IsKey key)
    (value : Bytes) :
    parseLine s (dropCR (utf8 ((Item.entry key value).chars go))) =
      .ok ((Item.entry key value).read go s) := by
  obtain ⟨c, cs, hcs⟩ := List.exists_cons_of_ne_nil h.1
  have hc : KeyChar c := h.2 c (hcs ▸ List.mem_cons_self)
  obtain ⟨body, hbody⟩ : ∃ body, quoteChars go.printTable value = '"' :: (body ++ ['"']) :=
    ⟨_, rfl⟩
  have hchars : (Item.entry key value).chars go =
      (key.toList ++ ' ' :: '=' :: ' ' :: '"' :: body) ++ ['"'] := by
    rw [Item.chars, hbody]
    simp
  have hstrip : stripFrom false false ((Item.entry key value).chars go) =
      (Item.entry key value).chars go := by
    rw [Item.chars, stripFrom_append fun d hd =>
      ⟨(h.2 d hd).ne (by decide), (h.2 d hd).ne (by decide)⟩]
    congr 1
    exact congrArg (' ' :: '=' :: ' ' :: ·) (stripFrom_quoteChars _ _)
  have hline : trimSpace (utf8 ((Item.entry key value).chars go)) =
      utf8 ((Item.entry key value).chars go) := by
    rw [hchars, hcs, List.cons_append, List.cons_append]
    exact trimSpace_eq hc.1 (by decide)
  have hcut : cut 61 (utf8 ((Item.entry key value).chars go)) =
      some (utf8 (key.toList ++ [' ']), utf8 (' ' :: quoteChars go.printTable value)) := by
    have hsplit : utf8 ((Item.entry key value).chars go) =
        utf8 (key.toList ++ [' ']) ++ 61 :: utf8 (' ' :: quoteChars go.printTable value) := by
      rw [Item.chars, utf8_append, utf8_append, List.append_assoc]
      rfl
    rw [hsplit]
    refine cut_append (fun hmem => ?_) _
    rcases List.mem_append.1 (mem_utf8 (c := '=') (by decide) hmem) with hkey | hspace
    · exact (h.2 '=' hkey).ne (by decide) rfl
    · revert hspace
      decide
  have hkey : trimSpace (utf8 (key.toList ++ [' '])) = text key := by
    rw [trimSpace_utf8, hcs, List.cons_append, List.dropWhile_cons_of_neg (by simp [hc.1]),
      ← List.cons_append, ← hcs, List.rdropWhile_concat_pos _ _ _ (by decide), h.rdropWhile]
    rfl
  have hraw : trimSpace (utf8 (' ' :: quoteChars go.printTable value)) = go.quote value := by
    rw [trimSpace_utf8, List.dropWhile_cons_of_pos (by decide), hbody,
      List.dropWhile_cons_of_neg (by decide), ← List.cons_append,
      List.rdropWhile_concat_neg _ _ _ (by decide), List.cons_append, ← hbody]
    rfl
  have hne : text key ≠ [] := by
    rw [text, hcs, utf8_cons]
    exact List.append_ne_nil_of_left_ne_nil (utf8EncodeChar_ne_nil c) _
  have hnil : utf8 ((Item.entry key value).chars go) ≠ [] := by
    rw [Item.chars, utf8_append]
    exact List.append_ne_nil_of_left_ne_nil hne _
  have hhead : (utf8 ((Item.entry key value).chars go)).head? ≠ some 91 := by
    rw [hchars, hcs, List.cons_append, List.cons_append]
    exact head?_utf8_cons (d := '[') _ (by decide) (hc.ne (by decide))
  have hcr : dropCR (utf8 ((Item.entry key value).chars go)) =
      utf8 ((Item.entry key value).chars go) := by
    rw [hchars, dropCR_utf8 _ (by decide)]
  rw [hcr, parseLine, stripInlineComment_utf8, hstrip, hline]
  dsimp only
  rw [if_neg hnil, if_neg hhead, hcut]
  dsimp only
  rw [hkey, hraw, if_neg hne]
  rfl

/-- A written line is read as what it says. -/
theorem parse_item (go : Runtime) (s : ParseState) {item : Item} (h : item.WellFormed) :
    parseLine s (dropCR (utf8 (item.chars go))) = .ok (item.read go s) := by
  cases item with
  | blank => exact parse_blank s
  | header name => exact parse_header s h
  | entry key value => exact parse_entry go s h value

theorem newline_not_mem_chars (go : Runtime) {item : Item} (h : item.WellFormed) :
    10 ∉ utf8 (item.chars go) := by
  intro hmem
  have hchars : '\n' ∈ item.chars go := mem_utf8 (c := '\n') (by decide) hmem
  have hkey : ∀ {key : String}, IsKey key → '\n' ∉ key.toList := fun hk hnew =>
    (hk.2 _ hnew).ne (by decide) rfl
  cases item with
  | blank => cases hchars
  | header name => simp [Item.chars, hkey h] at hchars
  | entry key value =>
    simp [Item.chars, hkey h, newline_not_mem_quoteChars] at hchars

/-- **A file that was written is read as what its items say.** -/
theorem parseLines_render (go : Runtime) (items : List Item) (s : ParseState)
    (h : ∀ item ∈ items, item.WellFormed)
    (hlimit : ∀ line ∈ lines (items.flatMap (Item.render go)), line.length < maxScanTokenSize) :
    parseLines s (lines (items.flatMap (Item.render go))) =
      .ok (items.foldl (Item.read go) s) := by
  induction items generalizing s with
  | nil => rfl
  | cons item items ih =>
    have hitem := h item List.mem_cons_self
    have hlines : lines ((item :: items).flatMap (Item.render go)) =
        utf8 (item.chars go) :: lines (items.flatMap (Item.render go)) := by
      rw [List.flatMap_cons, Item.render, List.append_assoc]
      exact lines_append (newline_not_mem_chars go hitem) _
    rw [hlines] at hlimit ⊢
    have hlen := hlimit _ List.mem_cons_self
    have hrest := ih (item.read go s) (fun i hi => h i (List.mem_cons_of_mem _ hi))
      fun line hline => hlimit line (List.mem_cons_of_mem _ hline)
    rw [parseLines, if_neg (by omega), parse_item go s hitem, List.foldl_cons, ← hrest]
    rfl

/-! ## The round trip -/

def StorerConfig.items (c : StorerConfig) : List Item :=
  [.entry "role" c.role, .entry "storage_file_path" c.storageFilePath,
    .entry "claim_code_rw" c.claimCodeRW, .entry "claim_code_ro" c.claimCodeRO, .blank,
    .header "whole", .entry "listen_addr" c.whole.listenAddr, .blank,
    .header "storer", .entry "gateway_addr" c.storer.gatewayAddr,
    .entry "gateway_token" c.storer.gatewayToken]

def GatewayConfig.items (c : GatewayConfig) : List Item :=
  [.header "client", .entry "listen_addr" c.client.listenAddr, .blank,
    .header "storer", .entry "listen_addr" c.storer.listenAddr,
    .entry "gateway_token" c.storer.gatewayToken]

theorem Item.render_entry (go : Runtime) (key : String) (value : Bytes) :
    (Item.entry key value).render go = Config.entry go key value := by
  rw [Item.render, Item.chars, utf8_append, Config.entry, List.append_assoc (text key)]
  rfl

theorem StorerConfig.content_eq (go : Runtime) (c : StorerConfig) :
    c.content go = c.items.flatMap (Item.render go) := by
  have hwhole : text "\n[whole]\n" = Item.blank.render go ++ (Item.header "whole").render go := rfl
  have hstorer : text "\n[storer]\n" =
    Item.blank.render go ++ (Item.header "storer").render go := rfl
  rw [content, hwhole, hstorer, items]
  simp only [← Item.render_entry, List.flatMap_cons, List.flatMap_nil, List.append_assoc,
    List.append_nil]

theorem GatewayConfig.content_eq (go : Runtime) (c : GatewayConfig) :
    c.content go = c.items.flatMap (Item.render go) := by
  have hclient : text "[client]\n" = (Item.header "client").render go := rfl
  have hstorer : text "\n[storer]\n" =
    Item.blank.render go ++ (Item.header "storer").render go := rfl
  rw [content, hclient, hstorer, items]
  simp only [← Item.render_entry, List.flatMap_cons, List.flatMap_nil, List.append_assoc,
    List.append_nil]

theorem StorerConfig.items_wellFormed (c : StorerConfig) : ∀ i ∈ c.items, i.WellFormed := by
  simp only [items, List.forall_mem_cons, Item.WellFormed]
  exact ⟨by decide, by decide, by decide, by decide, trivial, by decide, by decide, trivial,
    by decide, by decide, by decide, nofun⟩

theorem GatewayConfig.items_wellFormed (c : GatewayConfig) : ∀ i ∈ c.items, i.WellFormed := by
  simp only [items, List.forall_mem_cons, Item.WellFormed]
  exact ⟨by decide, by decide, trivial, by decide, by decide, by decide, nofun⟩

/-- The string fields. -/
def StorerConfig.strings (c : StorerConfig) : List Bytes :=
  [c.role, c.storageFilePath, c.claimCodeRW, c.claimCodeRO, c.whole.listenAddr,
    c.storer.gatewayAddr, c.storer.gatewayToken]

def GatewayConfig.strings (c : GatewayConfig) : List Bytes :=
  [c.client.listenAddr, c.storer.listenAddr, c.storer.gatewayToken]

/-- The values that were read from a written file. -/
def valuesOf (go : Runtime) (items : List Item) : Values :=
  (items.foldl (Item.read go) {}).values

theorem getString_quote {go : Runtime} {values : Values} {key : String} {fallback s : Bytes}
    (hlookup : values.lookup (text key) = some (go.quote s))
    (hunquote : go.unquote (go.quote s) = some s) : getString go values key fallback = s := by
  rw [getString, hlookup]
  dsimp only
  rw [hunquote, Option.getD_some]

theorem StorerConfig.ofValues_items {go : Runtime} {c : StorerConfig}
    (h : ∀ s ∈ c.strings, go.unquote (go.quote s) = some s) :
    ofValues go (valuesOf go c.items) = c := by
  simp only [strings, List.forall_mem_cons] at h
  obtain ⟨hrole, hpath, hrw, hro, hwhole, haddr, htoken, -⟩ := h
  rw [ofValues, getString_quote (s := c.role) rfl hrole,
    getString_quote (s := c.storageFilePath) rfl hpath,
    getString_quote (s := c.claimCodeRW) rfl hrw, getString_quote (s := c.claimCodeRO) rfl hro,
    getString_quote (s := c.whole.listenAddr) rfl hwhole,
    getString_quote (s := c.storer.gatewayAddr) rfl haddr,
    getString_quote (s := c.storer.gatewayToken) rfl htoken]

theorem GatewayConfig.ofValues_items {go : Runtime} {c : GatewayConfig}
    (h : ∀ s ∈ c.strings, go.unquote (go.quote s) = some s) :
    ofValues go (valuesOf go c.items) = c := by
  simp only [strings, List.forall_mem_cons] at h
  obtain ⟨hclient, hstorer, htoken, -⟩ := h
  rw [ofValues, getString_quote (s := c.client.listenAddr) rfl hclient,
    getString_quote (s := c.storer.listenAddr) rfl hstorer,
    getString_quote (s := c.storer.gatewayToken) rfl htoken]

/-- Nothing is in the way of writing the file. -/
def Os.Writable (os : Os) (path : Bytes) : Prop :=
  os.mkdirAll path = none ∧ os.writeFile path = none

/-- What is read after items were written. -/
theorem Os.save_items {os : Os} {path : Bytes} {go : Runtime} {items : List Item}
    (hos : os.Writable path) (h : ∀ item ∈ items, item.WellFormed)
    (hlimit : ∀ line ∈ lines (items.flatMap (Item.render go)), line.length < maxScanTokenSize) :
    ∃ os', os.save path (items.flatMap (Item.render go)) = .ok os' ∧
      loadKeyValues os' path = .ok (valuesOf go items) := by
  let content := items.flatMap (Item.render go)
  refine ⟨{ os with readFile := Function.update os.readFile path (.ok content) }, ?_, ?_⟩
  · rw [save, hos.1]
    dsimp only
    rw [hos.2]
    rfl
  · rw [loadKeyValues]
    dsimp only
    rw [Function.update_self]
    show wrap _ (parseLines {} _ >>= _) = _
    rw [parseLines_render go items {} h hlimit]
    rfl

/-- **A configuration that was saved is the one that is loaded**, for the storer and for the
gateway, whatever bytes its strings are made of. -/
theorem load_save (go : Runtime) (os : Os) (path : Bytes) (hos : os.Writable path) :
    (∀ cfg : StorerConfig, cfg.validate go = .ok () →
      (∀ line ∈ lines (cfg.content go), line.length < maxScanTokenSize) →
      (∀ s ∈ cfg.strings, go.unquote (go.quote s) = some s) →
      ∃ os', saveStorer go os path cfg = .ok os' ∧ loadStorer go os' path = .ok cfg) ∧
    (∀ cfg : GatewayConfig, cfg.validate = .ok () →
      (∀ line ∈ lines (cfg.content go), line.length < maxScanTokenSize) →
      (∀ s ∈ cfg.strings, go.unquote (go.quote s) = some s) →
      ∃ os', saveGateway go os path cfg = .ok os' ∧ loadGateway go os' path = .ok cfg) := by
  constructor
  · intro cfg hvalid hlimit hunquote
    rw [cfg.content_eq go] at hlimit
    obtain ⟨os', hsave, hload⟩ := Os.save_items hos cfg.items_wellFormed hlimit
    refine ⟨os', ?_, ?_⟩
    · rw [saveStorer, hvalid, cfg.content_eq go]
      exact hsave
    · rw [loadStorer, hload]
      show (StorerConfig.ofValues go _).validate go >>= _ = _
      rw [StorerConfig.ofValues_items hunquote, hvalid]
      rfl
  · intro cfg hvalid hlimit hunquote
    rw [cfg.content_eq go] at hlimit
    obtain ⟨os', hsave, hload⟩ := Os.save_items hos cfg.items_wellFormed hlimit
    refine ⟨os', ?_, ?_⟩
    · rw [saveGateway, hvalid, cfg.content_eq go]
      exact hsave
    · rw [loadGateway, hload]
      show (GatewayConfig.ofValues go _).validate >>= _ = _
      rw [GatewayConfig.ofValues_items hunquote, hvalid]
      rfl

/-! ### A run -/

/-- `strconv.Unquote` where there is no escape. -/
def unquotePlain : Bytes → Option Bytes
  | 34 :: rest =>
    if rest.getLast? = some 34 ∧ 34 ∉ rest.dropLast ∧ 92 ∉ rest.dropLast ∧
        10 ∉ rest.dropLast then
      some rest.dropLast
    else none
  | _ => none

def plainRuntime : Runtime := ⟨fun _ => false, unquotePlain, fun _ => []⟩

def emptyOs : Os := ⟨fun _ => .error (text "file does not exist"), fun _ => none, fun _ => none⟩

/-- Paths with what lines are cut and stripped at. -/
def hashStorer : StorerConfig where
  role := storerRoleWhole
  storageFilePath := text " a # b = [c] "
  claimCodeRW := List.replicate 80 48
  claimCodeRO := text " "
  whole := ⟨text "[::1]:9736"⟩
  storer := ⟨[], text "#"⟩

def hashGateway : GatewayConfig := ⟨⟨text "[::1]:9736"⟩, ⟨text "[::1]:9836", text "= # ="⟩⟩

theorem load_save_hash :
    (∃ os', saveStorer plainRuntime emptyOs (text "config.toml") hashStorer = .ok os' ∧
      loadStorer plainRuntime os' (text "config.toml") = .ok hashStorer) ∧
    (∃ os', saveGateway plainRuntime emptyOs (text "config.toml") hashGateway = .ok os' ∧
      loadGateway plainRuntime os' (text "config.toml") = .ok hashGateway) :=
  have h := load_save plainRuntime emptyOs (text "config.toml") ⟨rfl, rfl⟩
  ⟨h.1 hashStorer (by rfl) (by decide) (by decide),
    h.2 hashGateway (by rfl) (by decide) (by decide)⟩

end YumeDisk.Server.Config
