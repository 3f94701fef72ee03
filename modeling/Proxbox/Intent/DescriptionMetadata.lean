import Proxbox.Library.JsonText
import Proxbox.Model.Inventory
/-!
# The metadata block of a description

The write side of the `netbox-metadata` fence: the foreign keys of a machine are rendered as a fenced JSON block
and appended to its description, after every block that is already there was cut out. `fenceMatch` is the
regular expression of the source: an opening line, the shortest body, and a closing line.
-/

namespace Proxbox

open Python

variable (cs : List Char)

def skipBlanks : List Char := cs.dropWhile fun c => c == ' ' || c == '\t'

def dropWord : List Char → List Char → Option (List Char)
  | [], cs => some cs
  | _ :: _, [] => none
  | w :: word, c :: cs => if w.toLower = c.toLower then dropWord word cs else none

/-- `\r?\n`. -/
def dropNewline : List Char → Option (List Char)
  | '\n' :: rest => some rest
  | '\r' :: '\n' :: rest => some rest
  | _ => none

/-- A closing line with the newline before it; what follows starts at the end of that line. -/
def closingFence : Option (List Char) := do
  let rest ← dropNewline cs
  let rest ← dropWord "```".toList (skipBlanks rest)
  match skipBlanks rest with
  | [] => some []
  | '\n' :: rest => some ('\n' :: rest)
  | _ => none

/-- The lazy body: the first place at which a closing line matches. -/
def afterBody : List Char → Option (List Char)
  | [] => none
  | c :: rest => (closingFence (c :: rest)).or (afterBody rest)

def fenceMatch : Option (List Char) := do
  let rest ← dropWord "```".toList (skipBlanks cs)
  let rest ← dropWord "netbox-metadata".toList (skipBlanks rest)
  let rest ← dropNewline (skipBlanks rest)
  afterBody rest

/-- `_FENCE_RE.sub("", text)`. The fuel is the length of the text, of which each round uses up a
character. -/
def subFences : Nat → Bool → List Char → List Char
  | 0, _, cs => cs
  | _, _, [] => []
  | fuel + 1, lineStart, c :: rest =>
    match if lineStart then fenceMatch (c :: rest) else none with
    | some tail => subFences fuel false tail
    | none => c :: subFences fuel (c == '\n') rest

def stripNetboxMetadata (text : Option String) : Option String :=
  match text with
  | none => none
  | some text =>
    let cleaned := rstrip (String.ofList (subFences text.length true text.toList))
    if cleaned = "" then none else some cleaned

variable (vm : VirtualMachine)

def collectNetboxMetadata : List (String × Int) :=
  [("role", vm.role.map Labelled.pk), ("tenant", vm.tenant), ("site", vm.site),
    ("platform", vm.platform), ("cluster", vm.cluster), ("device", vm.device.map Device.pk)].filterMap
    fun field => (field.2.filter fun pk => decide (0 < pk)).map (field.1, ·)

/-- `render_netbox_metadata_block`: `json.dumps` with sorted keys and an indent of two. -/
def renderNetboxMetadataBlock (metadata : List (String × Int)) : Option String :=
  if metadata.isEmpty then none
  else
    let sorted := metadata.mergeSort fun left right => decide (left.1 ≤ right.1)
    let lines := sorted.map fun field => "  " ++ String.ofList (quoted field.1) ++ ": " ++ toString field.2
    let body := "\x7b\n" ++ String.intercalate ",\n" lines ++ "\n\x7d"
    some ("```netbox-metadata\n" ++ body ++ "\n```")

def embedNetboxMetadata (description block : Option String) : Option String :=
  match block, stripNetboxMetadata description with
  | none, base => base
  | some block, none => some block
  | some block, some base => some (base ++ "\n\n" ++ block)

def buildDescriptionWithMetadata (description : Option String) : Option String :=
  embedNetboxMetadata description (renderNetboxMetadataBlock (collectNetboxMetadata vm))

end Proxbox
