import N2F.Ecma.Properties

set_option autoImplicit false

namespace Ecma

-- What a JSON text says exactly: numerals keep their exact magnitude, members
-- their order and their duplicates.
inductive Doc where
  | null
  | bool (b : Bool)
  | num (negative : Bool) (magnitude : ℚ)
  | str (s : Str)
  | arr (elements : List Doc)
  | obj (members : List (Str × Doc))

inductive Json where
  | null
  | bool (b : Bool)
  | num (n : Number)
  | str (s : Str)
  | arr (elements : List Json)
  | obj (members : List (Str × Json))

mutual
def Doc.value : Doc → Json
  | .null => .null
  | .bool b => .bool b
  | .num negative magnitude => .num (Number.ofNumeral negative magnitude)
  | .str s => .str s
  | .arr elements => .arr (elementValues elements)
  | .obj members => .obj (build (memberValues members))
def elementValues : List Doc → List Json
  | [] => []
  | d :: rest => d.value :: elementValues rest
def memberValues : List (Str × Doc) → List (Str × Json)
  | [] => []
  | (k, d) :: rest => (k, d.value) :: memberValues rest
end

def isSpace (c : Char) : Bool := c = ' ' || c = '\t' || c = '\n' || c = '\r'

def skip (cs : List Char) : List Char := cs.dropWhile isSpace

-- The grammar of JSON texts. Every call hands on less text than it received,
-- so the length of the text is fuel enough.
mutual
def parseValue : ℕ → List Char → Option (Doc × List Char)
  | 0, _ => none
  | _ + 1, [] => none
  | fuel + 1, c :: rest =>
      if c = '"' then (scanString rest).map fun (s, after) => (.str s, after)
      else if c = '[' then
        match skip rest with
        | [] => none
        | d :: after =>
            if d = ']' then some (.arr [], after)
            else (parseValue fuel (d :: after)).bind fun (v, after) =>
              (parseElements fuel after).map fun (vs, after) => (.arr (v :: vs), after)
      else if c = '{' then
        match skip rest with
        | [] => none
        | d :: after =>
            if d = '}' then some (.obj [], after)
            else (parseMember fuel (d :: after)).bind fun (m, after) =>
              (parseMembers fuel after).map fun (ms, after) => (.obj (m :: ms), after)
      else if "null".toList.isPrefixOf (c :: rest) then some (.null, rest.drop 3)
      else if "true".toList.isPrefixOf (c :: rest) then some (.bool true, rest.drop 3)
      else if "false".toList.isPrefixOf (c :: rest) then some (.bool false, rest.drop 4)
      else (scanNumeral (c :: rest)).map fun (n, after) => (.num n.1 n.2, after)
def parseElements : ℕ → List Char → Option (List Doc × List Char)
  | 0, _ => none
  | fuel + 1, cs =>
      match skip cs with
      | [] => none
      | c :: rest =>
          if c = ']' then some ([], rest)
          else if c = ',' then
            (parseValue fuel (skip rest)).bind fun (v, after) =>
              (parseElements fuel after).map fun (vs, after) => (v :: vs, after)
          else none
def parseMember : ℕ → List Char → Option ((Str × Doc) × List Char)
  | 0, _ => none
  | _ + 1, [] => none
  | fuel + 1, c :: rest =>
      if c = '"' then
        (scanString rest).bind fun (k, after) =>
          match skip after with
          | [] => none
          | d :: more =>
              if d = ':' then (parseValue fuel (skip more)).map fun (v, after) => ((k, v), after)
              else none
      else none
def parseMembers : ℕ → List Char → Option (List (Str × Doc) × List Char)
  | 0, _ => none
  | fuel + 1, cs =>
      match skip cs with
      | [] => none
      | c :: rest =>
          if c = '}' then some ([], rest)
          else if c = ',' then
            (parseMember fuel (skip rest)).bind fun (m, after) =>
              (parseMembers fuel after).map fun (ms, after) => (m :: ms, after)
          else none
end

def parseDoc (cs : List Char) : Option Doc :=
  (parseValue cs.length (skip cs)).bind fun (d, rest) => if skip rest = [] then some d else none

def parse (cs : List Char) : Option Json := (parseDoc cs).map Doc.value

def numberJson (n : Number) : List Char :=
  match n with
  | .nan | .infinity _ => "null".toList
  | .negZero | .finite _ => n.text

-- JSON.stringify without indentation.
mutual
def Json.text : Json → List Char
  | .null => "null".toList
  | .bool true => "true".toList
  | .bool false => "false".toList
  | .num n => numberJson n
  | .str s => quote s
  | .arr [] => ['[', ']']
  | .arr (v :: rest) => '[' :: (v.text ++ elementsText rest)
  | .obj [] => ['{', '}']
  | .obj ((k, v) :: rest) => '{' :: (quote k ++ ':' :: (v.text ++ membersText rest))
def elementsText : List Json → List Char
  | [] => [']']
  | v :: rest => ',' :: (v.text ++ elementsText rest)
def membersText : List (Str × Json) → List Char
  | [] => ['}']
  | (k, v) :: rest => ',' :: (quote k ++ ':' :: (v.text ++ membersText rest))
end

def numberDoc (n : Number) : Doc :=
  match n with
  | .nan | .infinity _ => .null
  | .negZero => .num false 0
  | .finite d => .num (denotes d).1 (denotes d).2

mutual
def Json.doc : Json → Doc
  | .null => .null
  | .bool b => .bool b
  | .num n => numberDoc n
  | .str s => .str s
  | .arr elements => .arr (elementDocs elements)
  | .obj members => .obj (memberDocs members)
def elementDocs : List Json → List Doc
  | [] => []
  | v :: rest => v.doc :: elementDocs rest
def memberDocs : List (Str × Json) → List (Str × Doc)
  | [] => []
  | (k, v) :: rest => (k, v.doc) :: memberDocs rest
end

end Ecma
