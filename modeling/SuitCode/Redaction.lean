import SuitCode.Library.FilledTables
import SuitCode.Library.JsonText
import SuitCode.Library.PosixText

/-!
# Redaction of arguments

The arguments of a tool call are logged without the values under sensitive keys and without
what is too long.  What is logged does not depend on those values, nor on the order of the members
of a mapping which is not cut, and redacting it once more changes nothing.
-/

namespace SuitCode

open KeyedList KeyedTable PosixText
open JsonText (hexDigit renderInt)

/-- An argument; a float is its text, and a value of another class is what `str` or `repr`
makes of it. -/
inductive ArgumentValue where
  | null
  | bool (value : Bool)
  | int (value : ℤ)
  | float (text : String)
  | str (value : String)
  | path (text : String)
  | list (items : List ArgumentValue)
  | mapping (members : List (String × ArgumentValue))
  | other (text : String)

/-- The items of a mapping in their order. -/
abbrev Arguments := List (String × ArgumentValue)

def sensitiveKeyMarkers : List String :=
  ["token", "password", "passwd", "secret", "authorization", "cookie", "api_key", "access_key",
    "private_key", "refresh_token"]

/-- The characters `str.lower` makes of one; of the letters which are not ASCII only those
are lowered here which become ASCII letters. -/
def lowerChar (c : Char) : List Char :=
  if c.toNat = 0x212a then ['k']
  else if c.toNat = 0x130 then ['i', Char.ofNat 0x307]
  else [c.toLower]

def isSensitiveKey (key : String) : Bool :=
  let lowered := String.ofList (key.toList.flatMap lowerChar)
  sensitiveKeyMarkers.any fun marker => containsText lowered marker

/-- `value[:stop]`; a negative bound counts from the end. -/
def sliceTo (value : String) (stop : ℤ) : String :=
  let length := value.toList.length
  String.ofList (value.toList.take (if stop < 0 then length + stop else stop).toNat)

def truncateString (value : String) (maxLength : ℕ) : String :=
  if value.toList.length ≤ maxLength then value
  else sliceTo value (maxLength - 3) ++ "..."

section

variable (maxStringLength maxItems : ℕ)

/-- `items["__truncated__"] = True` where items are left out. -/
def markTruncated (cut : Bool) (items : Arguments) : Arguments :=
  if cut then upsertRows Prod.fst ("__truncated__", .bool true) items else items

mutual

/-- `_redact` of a value whose key, if it has one, is not sensitive. -/
def redactValue : ArgumentValue → ArgumentValue
  | .null => .null
  | .bool value => .bool value
  | .int value => .int value
  | .float text => .float text
  | .str value => .str (truncateString value maxStringLength)
  | .path text => .str (truncateString text maxStringLength)
  | .list items => .list (redactItems maxItems items)
  | .mapping members =>
      .mapping (markTruncated (maxItems < members.length) (redactMembers maxItems members))
  | .other text => .str (truncateString text maxStringLength)

def redactItems : ℕ → List ArgumentValue → List ArgumentValue
  | _, [] => []
  | 0, _ :: _ => [.str "<truncated>"]
  | left + 1, item :: items => redactValue item :: redactItems left items

/-- The items of a mapping until some have been taken; the keys of a mapping are different,
so that each is put behind the others. -/
def redactMembers : ℕ → Arguments → Arguments
  | _, [] => []
  | 0, _ :: _ => []
  | left + 1, (key, value) :: members =>
      (key, if isSensitiveKey key then .str "<redacted>" else redactValue value) ::
        redactMembers left members

end

/-- `redact_arguments` within given limits; the arguments themselves are not cut. -/
def redactWithin (arguments : Arguments) : Arguments :=
  redactMembers maxStringLength maxItems arguments.length arguments

end

/-- `redact_arguments` within its own limits. -/
def redactArguments (arguments : Arguments) : Arguments := redactWithin 512 50 arguments

/-! ## Fingerprints -/

/-- `\uXXXX`. -/
def unicodeEscape (code : ℕ) : List Char :=
  ['\\', 'u', hexDigit (code / 4096 % 16), hexDigit (code / 256 % 16), hexDigit (code / 16 % 16),
    hexDigit (code % 16)]

def escapeAscii (c : Char) : List Char :=
  if c = '"' then ['\\', '"']
  else if c = '\\' then ['\\', '\\']
  else if c = '\n' then ['\\', 'n']
  else if c = '\r' then ['\\', 'r']
  else if c = '\t' then ['\\', 't']
  else if c.toNat = 8 then ['\\', 'b']
  else if c.toNat = 12 then ['\\', 'f']
  else if 32 ≤ c.toNat ∧ c.toNat < 127 then [c]
  else if c.toNat < 0x10000 then unicodeEscape c.toNat
  else
    unicodeEscape (0xd800 + (c.toNat - 0x10000) / 1024) ++
      unicodeEscape (0xdc00 + (c.toNat - 0x10000) % 1024)

def quoteAscii (text : String) : List Char :=
  '"' :: (text.toList.flatMap escapeAscii ++ ['"'])

mutual

/-- The text of a value, with the members of every mapping in key order; a value of another
class does not come here. -/
def renderArgument : ArgumentValue → List Char
  | .null => "null".toList
  | .bool true => "true".toList
  | .bool false => "false".toList
  | .int value => renderInt value
  | .float text => text.toList
  | .str value => quoteAscii value
  | .path text => quoteAscii text
  | .list items => '[' :: ([','].intercalate (renderArguments items) ++ [']'])
  | .mapping members =>
      '\x7b' :: ([','].intercalate ((sortedBy Prod.fst (renderMembers members)).map Prod.snd) ++
        ['\x7d'])
  | .other text => quoteAscii text

def renderArguments : List ArgumentValue → List (List Char)
  | [] => []
  | item :: items => renderArgument item :: renderArguments items

def renderMembers : Arguments → List (String × List Char)
  | [] => []
  | (key, value) :: members =>
      (key, quoteAscii key ++ ':' :: renderArgument value) :: renderMembers members

end

def fingerprintArguments (sha256 : String → String) (argumentsRedacted : Arguments) : String :=
  sha256 (String.ofList (renderArgument (.mapping argumentsRedacted)))

/-! ## Arguments with other secrets -/

mutual

/-- The values are the same but for what is stored under sensitive keys. -/
def SameButSecrets : ArgumentValue → ArgumentValue → Prop
  | .list left, .list right => SameItemsButSecrets left right
  | .mapping left, .mapping right => SameMembersButSecrets left right
  | left, right => left = right

def SameItemsButSecrets : List ArgumentValue → List ArgumentValue → Prop
  | [], [] => True
  | left :: lefts, right :: rights => SameButSecrets left right ∧ SameItemsButSecrets lefts rights
  | _, _ => False

def SameMembersButSecrets : Arguments → Arguments → Prop
  | [], [] => True
  | (key, left) :: lefts, (other, right) :: rights =>
      key = other ∧ (isSensitiveKey key = true ∨ SameButSecrets left right) ∧
        SameMembersButSecrets lefts rights
  | _, _ => False

end

theorem length_eq_of_sameMembers {left right : Arguments}
    (hsame : SameMembersButSecrets left right) : left.length = right.length := by
  induction left generalizing right with
  | nil =>
      cases right with
      | nil => rfl
      | cons other right => exact hsame.elim
  | cons member left ih =>
      cases right with
      | nil => exact hsame.elim
      | cons other right =>
          unfold SameMembersButSecrets at hsame
          rw [List.length_cons, List.length_cons, ih hsame.2.2]

variable {maxStringLength maxItems : ℕ}

mutual

theorem redactValue_of_same : ∀ left right : ArgumentValue, SameButSecrets left right →
    redactValue maxStringLength maxItems left = redactValue maxStringLength maxItems right
  | .list left, .list right, hsame => by
      have hitems := redactItems_of_same maxItems left right hsame
      rw [redactValue, redactValue, hitems]
  | .mapping left, .mapping right, hsame => by
      have hmembers := redactMembers_of_same maxItems left right hsame
      rw [redactValue, redactValue, hmembers, length_eq_of_sameMembers hsame]
  | .null, _, hsame => by rw [show ArgumentValue.null = _ from hsame]
  | .bool _, _, hsame => by rw [show ArgumentValue.bool _ = _ from hsame]
  | .int _, _, hsame => by rw [show ArgumentValue.int _ = _ from hsame]
  | .float _, _, hsame => by rw [show ArgumentValue.float _ = _ from hsame]
  | .str _, _, hsame => by rw [show ArgumentValue.str _ = _ from hsame]
  | .path _, _, hsame => by rw [show ArgumentValue.path _ = _ from hsame]
  | .other _, _, hsame => by rw [show ArgumentValue.other _ = _ from hsame]

theorem redactItems_of_same : ∀ (count : ℕ) (left right : List ArgumentValue),
    SameItemsButSecrets left right →
      redactItems maxStringLength maxItems count left =
        redactItems maxStringLength maxItems count right
  | _, [], [], _ => rfl
  | 0, _ :: _, _ :: _, _ => by rw [redactItems, redactItems]
  | count + 1, left :: lefts, right :: rights, hsame => by
      have hhead := redactValue_of_same left right hsame.1
      have htail := redactItems_of_same count lefts rights hsame.2
      rw [redactItems, redactItems, hhead, htail]

theorem redactMembers_of_same : ∀ (count : ℕ) (left right : Arguments),
    SameMembersButSecrets left right →
      redactMembers maxStringLength maxItems count left =
        redactMembers maxStringLength maxItems count right
  | _, [], [], _ => rfl
  | 0, _ :: _, _ :: _, _ => by rw [redactMembers, redactMembers]
  | count + 1, (key, left) :: lefts, (other, right) :: rights, hsame => by
      obtain ⟨rfl, hvalue, hrest⟩ := hsame
      have htail := redactMembers_of_same count lefts rights hrest
      rw [redactMembers, redactMembers, htail]
      cases hvalue with
      | inl hsensitive => rw [if_pos hsensitive, if_pos hsensitive]
      | inr hagree => rw [redactValue_of_same left right hagree]

end

/-! ## Redacting once more -/

theorem length_truncateString_le (hlimit : 3 ≤ maxStringLength) (value : String) :
    (truncateString value maxStringLength).toList.length ≤ maxStringLength := by
  unfold truncateString
  by_cases hshort : value.toList.length ≤ maxStringLength
  · rw [if_pos hshort]
    exact hshort
  · rw [if_neg hshort]
    have hstop : ¬ ((maxStringLength : ℤ) - 3 < 0) := by omega
    have htaken : ((maxStringLength : ℤ) - 3).toNat = maxStringLength - 3 := by omega
    have hdots : "...".toList.length = 3 := by decide
    simp only [sliceTo, if_neg hstop, htaken, String.toList_append, String.toList_ofList,
      List.length_append, List.length_take, hdots]
    omega

theorem truncateString_idem (hlimit : 3 ≤ maxStringLength) (value : String) :
    truncateString (truncateString value maxStringLength) maxStringLength =
      truncateString value maxStringLength := by
  have hshort := length_truncateString_le hlimit value
  generalize truncateString value maxStringLength = truncated at hshort
  rw [truncateString, if_pos hshort]

def redactMember (maxStringLength maxItems : ℕ) (member : String × ArgumentValue) :
    String × ArgumentValue :=
  (member.1, if isSensitiveKey member.1 then .str "<redacted>"
    else redactValue maxStringLength maxItems member.2)

theorem redactMembers_eq (count : ℕ) (members : Arguments) :
    redactMembers maxStringLength maxItems count members =
      (members.take count).map (redactMember maxStringLength maxItems) := by
  induction members generalizing count with
  | nil => simp [redactMembers]
  | cons member members ih =>
      cases count with
      | zero => simp [redactMembers]
      | succ count => simp [redactMembers, redactMember, ih]

theorem redactMembers_of_fixed {count : ℕ} {members : Arguments}
    (hfixed : ∀ member ∈ members, redactMember maxStringLength maxItems member = member) :
    redactMembers maxStringLength maxItems count members = members.take count := by
  rw [redactMembers_eq]
  exact List.map_congr_left (g := id) (fun member hmember =>
    hfixed member (List.mem_of_mem_take hmember)) |>.trans (List.map_id _)

theorem truncated_not_sensitive : isSensitiveKey "__truncated__" = false := by decide

theorem markTruncated_fixed {members : Arguments} {cut : Bool}
    (hfixed : ∀ member ∈ members, redactMember maxStringLength maxItems member = member)
    (hlength : members.length ≤ maxItems) (hcut : cut = true → members.length = maxItems) :
    markTruncated (maxItems < (markTruncated cut members).length)
        (redactMembers maxStringLength maxItems maxItems (markTruncated cut members)) =
      markTruncated cut members := by
  cases cut with
  | false =>
      have hshort : ¬ maxItems < members.length := by omega
      simp only [markTruncated, Bool.false_eq_true, if_false, hshort, decide_false]
      rw [redactMembers_of_fixed hfixed, List.take_of_length_le hlength]
  | true =>
      have hfull := hcut rfl
      simp only [markTruncated, if_true]
      have hkeys := map_key_upsertRows Prod.fst ("__truncated__", ArgumentValue.bool true) members
      have hmark : redactMember maxStringLength maxItems ("__truncated__", .bool true) =
          ("__truncated__", .bool true) := by
        simp [redactMember, truncated_not_sensitive, redactValue]
      have hmarked : ∀ member ∈ upsertRows Prod.fst ("__truncated__", .bool true) members,
          redactMember maxStringLength maxItems member = member := by
        intro member hmember
        cases eq_or_mem_of_mem_upsertRows hmember with
        | inl heq =>
            rw [heq]
            exact hmark
        | inr hmem => exact hfixed member hmem
      rw [redactMembers_of_fixed hmarked]
      by_cases hpresent : "__truncated__" ∈ members.map Prod.fst
      · have hsize := congrArg List.length hkeys
        rw [if_pos hpresent, List.length_map, List.length_map] at hsize
        have hshort : ¬ maxItems <
            (upsertRows Prod.fst ("__truncated__", ArgumentValue.bool true) members).length := by
          omega
        simp only [hshort, decide_false, Bool.false_eq_true, if_false]
        exact List.take_of_length_le (by omega)
      · have habsent : upsertRows Prod.fst ("__truncated__", ArgumentValue.bool true) members =
            members ++ [("__truncated__", ArgumentValue.bool true)] :=
          upsertRows_of_absent hpresent
        have hlong : maxItems < (members ++ [("__truncated__", ArgumentValue.bool true)]).length := by
          simp [hfull]
        rw [habsent]
        simp only [hlong, decide_true, if_true]
        rw [← hfull, List.take_left, habsent]

mutual

theorem redactValue_idem (hlimit : 11 ≤ maxStringLength) : ∀ value : ArgumentValue,
    redactValue maxStringLength maxItems (redactValue maxStringLength maxItems value) =
      redactValue maxStringLength maxItems value
  | .null => by rw [redactValue, redactValue]
  | .bool _ => by rw [redactValue, redactValue]
  | .int _ => by rw [redactValue, redactValue]
  | .float _ => by rw [redactValue, redactValue]
  | .str _ => by rw [redactValue, redactValue, truncateString_idem (by omega)]
  | .path _ => by rw [redactValue, redactValue, truncateString_idem (by omega)]
  | .other _ => by rw [redactValue, redactValue, truncateString_idem (by omega)]
  | .list items => by
      have hitems := redactItems_idem hlimit maxItems items
      rw [redactValue, redactValue, hitems]
  | .mapping members => by
      have hmembers := redactMember_idem hlimit members
      have hfixed : ∀ member ∈ redactMembers maxStringLength maxItems maxItems members,
          redactMember maxStringLength maxItems member = member := by
        intro member hmember
        rw [redactMembers_eq] at hmember
        obtain ⟨original, horiginal, rfl⟩ := List.mem_map.mp hmember
        exact hmembers original (List.mem_of_mem_take horiginal)
      have hlength : (redactMembers maxStringLength maxItems maxItems members).length =
          min maxItems members.length := by
        rw [redactMembers_eq, List.length_map, List.length_take]
      rw [redactValue, redactValue, markTruncated_fixed hfixed (by omega)]
      intro hcut
      have hlong := of_decide_eq_true hcut
      omega

theorem redactItems_idem (hlimit : 11 ≤ maxStringLength) :
    ∀ (count : ℕ) (items : List ArgumentValue),
      redactItems maxStringLength maxItems count
          (redactItems maxStringLength maxItems count items) =
        redactItems maxStringLength maxItems count items
  | _, [] => by rw [redactItems, redactItems]
  | 0, _ :: _ => by rw [redactItems, redactItems]
  | count + 1, item :: items => by
      have hitem := redactValue_idem hlimit item
      have hitems := redactItems_idem hlimit count items
      rw [redactItems, redactItems, hitem, hitems]

theorem redactMember_idem (hlimit : 11 ≤ maxStringLength) : ∀ (members : Arguments),
    ∀ member ∈ members, redactMember maxStringLength maxItems
        (redactMember maxStringLength maxItems member) =
      redactMember maxStringLength maxItems member
  | [], _, hmember => by cases hmember
  | (key, value) :: members, member, hmember => by
      have hvalue := redactValue_idem hlimit value
      have hmembers := redactMember_idem hlimit members
      rw [List.mem_cons] at hmember
      cases hmember with
      | inl heq =>
          rw [heq]
          unfold redactMember
          by_cases hsensitive : isSensitiveKey key = true
          · simp [hsensitive]
          · simp [hsensitive, hvalue]
      | inr hrest => exact hmembers member hrest

end

theorem redactWithin_idem (hlimit : 11 ≤ maxStringLength) (arguments : Arguments) :
    redactWithin maxStringLength maxItems (redactWithin maxStringLength maxItems arguments) =
      redactWithin maxStringLength maxItems arguments := by
  have hfixed : ∀ member ∈ redactWithin maxStringLength maxItems arguments,
      redactMember maxStringLength maxItems member = member := by
    intro member hmember
    rw [redactWithin, redactMembers_eq] at hmember
    obtain ⟨original, horiginal, rfl⟩ := List.mem_map.mp hmember
    exact redactMember_idem hlimit arguments original (List.mem_of_mem_take horiginal)
  generalize redactWithin maxStringLength maxItems arguments = redacted at hfixed
  rw [redactWithin, redactMembers_of_fixed hfixed, List.take_length]

/-! ## The order of members -/

section Order

variable (sorts : ℕ → Bool)

mutual

def inKeyOrder : ArgumentValue → ArgumentValue
  | .list items => .list (itemsInKeyOrder items)
  | .mapping members =>
      .mapping (if sorts members.length then sortedBy Prod.fst (membersInKeyOrder members)
        else membersInKeyOrder members)
  | value => value

def itemsInKeyOrder : List ArgumentValue → List ArgumentValue
  | [] => []
  | item :: items => inKeyOrder item :: itemsInKeyOrder items

def membersInKeyOrder : Arguments → Arguments
  | [] => []
  | (key, value) :: members => (key, inKeyOrder value) :: membersInKeyOrder members

end

/-- The arguments themselves are always sorted. -/
def argumentsInKeyOrder (arguments : Arguments) : Arguments :=
  sortedBy Prod.fst (membersInKeyOrder sorts arguments)

theorem membersInKeyOrder_eq (members : Arguments) :
    membersInKeyOrder sorts members =
      members.map fun member => (member.1, inKeyOrder sorts member.2) := by
  induction members with
  | nil => rfl
  | cons member members ih => rw [membersInKeyOrder, ih, List.map_cons]

theorem membersInKeyOrder_sortedBy (members : Arguments) :
    membersInKeyOrder sorts (sortedBy Prod.fst members) =
      sortedBy Prod.fst (membersInKeyOrder sorts members) := by
  rw [membersInKeyOrder_eq, membersInKeyOrder_eq]
  apply map_sortedBy
  intro member
  rfl

theorem membersInKeyOrder_markTruncated (cut : Bool) (members : Arguments) :
    membersInKeyOrder sorts (markTruncated cut members) =
      markTruncated cut (membersInKeyOrder sorts members) := by
  cases cut with
  | false => rfl
  | true =>
      simp only [markTruncated, if_true]
      induction members with
      | nil => rfl
      | cons member members ih =>
          by_cases hkey : member.1 = "__truncated__"
          · simp [upsertRows, membersInKeyOrder, hkey, inKeyOrder]
          · simp [upsertRows, membersInKeyOrder, hkey, ih]

end Order

/-- Equal as Python compares mappings: in any order of their members. -/
def EqualArguments (left right : Arguments) : Prop :=
  argumentsInKeyOrder (fun _ => true) left = argumentsInKeyOrder (fun _ => true) right

/-- A mapping which is not cut. -/
def fits (maxItems size : ℕ) : Bool := size ≤ maxItems

theorem map_redactMember_sortedBy (members : Arguments) :
    (sortedBy Prod.fst members).map (redactMember maxStringLength maxItems) =
      sortedBy Prod.fst (members.map (redactMember maxStringLength maxItems)) := by
  apply map_sortedBy
  intro member
  simp only [redactMember]

theorem redactMembers_sortedBy {members : Arguments} (hshort : members.length ≤ maxItems) :
    redactMembers maxStringLength maxItems maxItems (sortedBy Prod.fst members) =
      sortedBy Prod.fst (redactMembers maxStringLength maxItems maxItems members) := by
  have hlength : (sortedBy Prod.fst members).length ≤ maxItems := by
    rw [(sortedBy_perm Prod.fst members).length_eq]
    exact hshort
  rw [redactMembers_eq, redactMembers_eq, List.take_of_length_le hlength,
    List.take_of_length_le hshort, map_redactMember_sortedBy]

mutual

theorem redactValue_inKeyOrder : ∀ value : ArgumentValue,
    inKeyOrder (fun _ => true)
        (redactValue maxStringLength maxItems (inKeyOrder (fits maxItems) value)) =
      inKeyOrder (fun _ => true) (redactValue maxStringLength maxItems value)
  | .null => by simp only [inKeyOrder, redactValue]
  | .bool _ => by simp only [inKeyOrder, redactValue]
  | .int _ => by simp only [inKeyOrder, redactValue]
  | .float _ => by simp only [inKeyOrder, redactValue]
  | .str _ => by simp only [inKeyOrder, redactValue]
  | .path _ => by simp only [inKeyOrder, redactValue]
  | .other _ => by simp only [inKeyOrder, redactValue]
  | .list items => by
      have hitems := redactItems_inKeyOrder maxItems items
      rw [inKeyOrder, redactValue, redactValue, inKeyOrder, inKeyOrder, hitems]
  | .mapping members => by
      have hmembers := redactMembers_inKeyOrder maxItems members
      have hlength : (membersInKeyOrder (fits maxItems) members).length = members.length := by
        rw [membersInKeyOrder_eq, List.length_map]
      rw [inKeyOrder, redactValue, redactValue, inKeyOrder, inKeyOrder, if_pos rfl, if_pos rfl]
      by_cases hshort : members.length ≤ maxItems
      · have hfits : fits maxItems members.length = true := decide_eq_true hshort
        have hordered : redactMembers maxStringLength maxItems maxItems
            (sortedBy Prod.fst (membersInKeyOrder (fits maxItems) members)) = _ :=
          redactMembers_sortedBy (by omega)
        have hsame := (sortedBy_perm Prod.fst
          (membersInKeyOrder (fits maxItems) members)).length_eq
        have hcut : decide (maxItems < members.length) = false := by simpa using hshort
        rw [if_pos hfits, hsame, hlength, hcut]
        simp only [markTruncated, Bool.false_eq_true, if_false]
        rw [hordered, membersInKeyOrder_sortedBy, sortedBy_sortedBy, hmembers]
      · have hfits : ¬ fits maxItems members.length = true := by simpa [fits] using hshort
        rw [if_neg hfits, hlength, membersInKeyOrder_markTruncated,
          membersInKeyOrder_markTruncated, hmembers]

theorem redactItems_inKeyOrder : ∀ (count : ℕ) (items : List ArgumentValue),
    itemsInKeyOrder (fun _ => true)
        (redactItems maxStringLength maxItems count (itemsInKeyOrder (fits maxItems) items)) =
      itemsInKeyOrder (fun _ => true) (redactItems maxStringLength maxItems count items)
  | _, [] => by rw [itemsInKeyOrder, redactItems]
  | 0, _ :: _ => by rw [itemsInKeyOrder, redactItems, redactItems]
  | count + 1, item :: items => by
      have hitem := redactValue_inKeyOrder item
      have hitems := redactItems_inKeyOrder count items
      rw [itemsInKeyOrder, redactItems, redactItems, itemsInKeyOrder, itemsInKeyOrder, hitem,
        hitems]

theorem redactMembers_inKeyOrder : ∀ (count : ℕ) (members : Arguments),
    membersInKeyOrder (fun _ => true) (redactMembers maxStringLength maxItems count
        (membersInKeyOrder (fits maxItems) members)) =
      membersInKeyOrder (fun _ => true) (redactMembers maxStringLength maxItems count members)
  | _, [] => by rw [membersInKeyOrder, redactMembers]
  | 0, _ :: _ => by rw [membersInKeyOrder, redactMembers, redactMembers]
  | count + 1, (key, value) :: members => by
      have hvalue := redactValue_inKeyOrder value
      have hmembers := redactMembers_inKeyOrder count members
      rw [membersInKeyOrder, redactMembers, redactMembers, membersInKeyOrder, membersInKeyOrder,
        hmembers]
      by_cases hsensitive : isSensitiveKey key = true
      · rw [if_pos hsensitive, if_pos hsensitive]
      · rw [if_neg hsensitive, if_neg hsensitive, hvalue]

end

theorem redactWithin_inKeyOrder (arguments : Arguments) :
    EqualArguments
      (redactWithin maxStringLength maxItems (argumentsInKeyOrder (fits maxItems) arguments))
      (redactWithin maxStringLength maxItems arguments) := by
  have hmembers : membersInKeyOrder (fun _ => true) (redactMembers maxStringLength maxItems
      arguments.length (membersInKeyOrder (fits maxItems) arguments)) = _ :=
    redactMembers_inKeyOrder arguments.length arguments
  have hlength : (membersInKeyOrder (fits maxItems) arguments).length = arguments.length := by
    rw [membersInKeyOrder_eq, List.length_map]
  have hsame := (sortedBy_perm Prod.fst (membersInKeyOrder (fits maxItems) arguments)).length_eq
  unfold EqualArguments argumentsInKeyOrder redactWithin
  rw [← hmembers, hsame, hlength, redactMembers_eq, redactMembers_eq,
    List.take_of_length_le (by omega), List.take_of_length_le (by omega)]
  rw [map_redactMember_sortedBy, membersInKeyOrder_sortedBy, sortedBy_sortedBy]

/-! ### The order in a fingerprint -/

theorem renderMembers_eq (members : Arguments) :
    renderMembers members = members.map fun member =>
      (member.1, quoteAscii member.1 ++ ':' :: renderArgument member.2) := by
  induction members with
  | nil => rfl
  | cons member members ih => rw [renderMembers, ih, List.map_cons]

theorem renderMembers_sortedBy (members : Arguments) :
    renderMembers (sortedBy Prod.fst members) = sortedBy Prod.fst (renderMembers members) := by
  rw [renderMembers_eq, renderMembers_eq]
  apply map_sortedBy
  intro member
  rfl

mutual

theorem renderArgument_inKeyOrder (sorts : ℕ → Bool) : ∀ value : ArgumentValue,
    renderArgument (inKeyOrder sorts value) = renderArgument value
  | .null => by rw [inKeyOrder] <;> simp
  | .bool _ => by rw [inKeyOrder] <;> simp
  | .int _ => by rw [inKeyOrder] <;> simp
  | .float _ => by rw [inKeyOrder] <;> simp
  | .str _ => by rw [inKeyOrder] <;> simp
  | .path _ => by rw [inKeyOrder] <;> simp
  | .other _ => by rw [inKeyOrder] <;> simp
  | .list items => by
      have hitems := renderArguments_inKeyOrder sorts items
      rw [inKeyOrder, renderArgument, renderArgument, hitems]
  | .mapping members => by
      have hmembers := renderMembers_inKeyOrder sorts members
      rw [inKeyOrder, renderArgument, renderArgument, ← hmembers]
      by_cases hsorts : sorts members.length = true
      · rw [if_pos hsorts, renderMembers_sortedBy, sortedBy_sortedBy]
      · rw [if_neg hsorts]

theorem renderArguments_inKeyOrder (sorts : ℕ → Bool) : ∀ items : List ArgumentValue,
    renderArguments (itemsInKeyOrder sorts items) = renderArguments items
  | [] => rfl
  | item :: items => by
      have hitem := renderArgument_inKeyOrder sorts item
      have hitems := renderArguments_inKeyOrder sorts items
      rw [itemsInKeyOrder, renderArguments, renderArguments, hitem, hitems]

theorem renderMembers_inKeyOrder (sorts : ℕ → Bool) : ∀ members : Arguments,
    renderMembers (membersInKeyOrder sorts members) = renderMembers members
  | [] => rfl
  | (key, value) :: members => by
      have hvalue := renderArgument_inKeyOrder sorts value
      have hmembers := renderMembers_inKeyOrder sorts members
      rw [membersInKeyOrder, renderMembers, renderMembers, hvalue, hmembers]

end

theorem EqualArguments.fingerprint {left right : Arguments} (hequal : EqualArguments left right)
    (sha256 : String → String) :
    fingerprintArguments sha256 left = fingerprintArguments sha256 right := by
  have hmapping : ∀ arguments : Arguments, ArgumentValue.mapping (argumentsInKeyOrder
      (fun _ => true) arguments) = inKeyOrder (fun _ => true) (.mapping arguments) := by
    intro arguments
    rw [inKeyOrder, if_pos rfl, argumentsInKeyOrder]
  have hsame := congrArg (fun arguments => renderArgument (.mapping arguments)) hequal
  simp only [hmapping, renderArgument_inKeyOrder] at hsame
  rw [fingerprintArguments, fingerprintArguments, hsame]

/-! ## What is logged -/

/-- Arguments which differ in values under sensitive keys, and in the order of the members of
mappings which are not cut, are redacted to equal trees with one fingerprint; redacting them
once more changes nothing. -/
theorem redactArguments_hides_secrets (sha256 : String → String) :
    (∀ left right : Arguments,
        SameMembersButSecrets (argumentsInKeyOrder (fits 50) left)
            (argumentsInKeyOrder (fits 50) right) →
          EqualArguments (redactArguments left) (redactArguments right) ∧
            fingerprintArguments sha256 (redactArguments left) =
              fingerprintArguments sha256 (redactArguments right)) ∧
      ∀ arguments : Arguments,
        redactArguments (redactArguments arguments) = redactArguments arguments := by
  constructor
  · intro left right hsame
    have hordered : redactArguments (argumentsInKeyOrder (fits 50) left) =
        redactArguments (argumentsInKeyOrder (fits 50) right) := by
      unfold redactArguments redactWithin
      rw [length_eq_of_sameMembers hsame]
      exact redactMembers_of_same _ _ _ hsame
    have hleft : EqualArguments (redactArguments (argumentsInKeyOrder (fits 50) left))
        (redactArguments left) := redactWithin_inKeyOrder left
    have hright : EqualArguments (redactArguments (argumentsInKeyOrder (fits 50) right))
        (redactArguments right) := redactWithin_inKeyOrder right
    rw [hordered] at hleft
    have hequal : EqualArguments (redactArguments left) (redactArguments right) :=
      hleft.symm.trans hright
    exact ⟨hequal, hequal.fingerprint sha256⟩
  · intro arguments
    exact redactWithin_idem (by decide) arguments

/-- Both at a call with a password in a list. -/
theorem redactArguments_hides_secrets_password :
    EqualArguments
        (redactArguments [("steps", .list [.mapping [("Password", .str "a"), ("id", .null)]])])
        (redactArguments [("steps", .list [.mapping [("id", .null), ("Password", .str "b")]])]) ∧
      redactArguments (redactArguments [("steps", .list [.mapping [("Password", .str "a")]])]) =
        redactArguments [("steps", .list [.mapping [("Password", .str "a")]])] := by
  have hsafe := redactArguments_hides_secrets id
  refine ⟨(hsafe.1 _ _ ?_).1, hsafe.2 _⟩
  refine ⟨rfl, .inr ⟨⟨rfl, .inl ?_, rfl, .inr rfl, trivial⟩, trivial⟩, trivial⟩
  decide

mutual

theorem sameButSecrets_refl : ∀ value : ArgumentValue, SameButSecrets value value
  | .list items => sameItemsButSecrets_refl items
  | .mapping members => sameMembersButSecrets_refl members
  | .null => rfl
  | .bool _ => rfl
  | .int _ => rfl
  | .float _ => rfl
  | .str _ => rfl
  | .path _ => rfl
  | .other _ => rfl

theorem sameItemsButSecrets_refl : ∀ items : List ArgumentValue, SameItemsButSecrets items items
  | [] => trivial
  | item :: items => ⟨sameButSecrets_refl item, sameItemsButSecrets_refl items⟩

theorem sameMembersButSecrets_refl : ∀ members : Arguments, SameMembersButSecrets members members
  | [] => trivial
  | (_, value) :: members =>
      ⟨rfl, .inr (sameButSecrets_refl value), sameMembersButSecrets_refl members⟩

end

theorem EqualArguments.keys_perm {key : String} {left right : Arguments}
    (hequal : EqualArguments [(key, .mapping left)] [(key, .mapping right)]) :
    (left.map Prod.fst).Perm (right.map Prod.fst) := by
  have hkeys : ∀ members : Arguments, (members.map Prod.fst).Perm
      ((sortedBy Prod.fst (membersInKeyOrder (fun _ => true) members)).map Prod.fst) := by
    intro members
    have hsame : members.map Prod.fst =
        (membersInKeyOrder (fun _ => true) members).map Prod.fst := by
      rw [membersInKeyOrder_eq, List.map_map]
      rfl
    rw [hsame]
    exact ((sortedBy_perm Prod.fst _).map Prod.fst).symm
  have hone : ∀ member : String × ArgumentValue, sortedBy Prod.fst [member] = [member] :=
    fun member => rfl
  have hsorted : sortedBy Prod.fst (membersInKeyOrder (fun _ => true) left) =
      sortedBy Prod.fst (membersInKeyOrder (fun _ => true) right) := by
    simp only [EqualArguments, argumentsInKeyOrder, membersInKeyOrder, inKeyOrder, if_true, hone,
      List.cons.injEq, Prod.mk.injEq, ArgumentValue.mapping.injEq, and_true, true_and] at hequal
    exact hequal
  exact (hkeys left).trans (hsorted ▸ (hkeys right).symm)

namespace Sample

def longMapping : Arguments :=
  (List.range 51).map fun place => (String.ofList [Char.ofNat (48 + place)], .null)

theorem longMapping_keys : (longMapping.map Prod.fst).Nodup := by
  have hcode : ∀ place < 51, (Char.ofNat (48 + place)).toNat = 48 + place := by decide
  rw [longMapping, List.map_map]
  apply List.nodup_range.map_on
  intro left hleft right hright heq
  have hchar : Char.ofNat (48 + left) = Char.ofNat (48 + right) := by
    simpa using String.ofList_injective heq
  have hnumber := congrArg Char.toNat hchar
  rw [hcode left (List.mem_range.mp hleft), hcode right (List.mem_range.mp hright)] at hnumber
  omega

end Sample

/-- The last member of a long mapping is cut, so that another order leaves out another one. -/
theorem redactArguments_depends_on_order :
    ¬ ∀ left right : Arguments,
      SameMembersButSecrets (argumentsInKeyOrder (fun _ => true) left)
          (argumentsInKeyOrder (fun _ => true) right) →
        EqualArguments (redactArguments left) (redactArguments right) := by
  intro hall
  have hequal := hall [("steps", .mapping Sample.longMapping)]
    [("steps", .mapping Sample.longMapping.reverse)] ?_
  · unfold redactArguments redactWithin at hequal
    have hfirst := hequal.keys_perm.mem_iff (a := "0")
    revert hfirst
    decide +kernel
  · have hsame : sortedBy Prod.fst (membersInKeyOrder (fun _ => true) Sample.longMapping) =
        sortedBy Prod.fst (membersInKeyOrder (fun _ => true) Sample.longMapping.reverse) := by
      rw [membersInKeyOrder_eq, membersInKeyOrder_eq, List.map_reverse]
      apply sortedBy_eq_of_perm (List.reverse_perm _).symm
      rw [List.map_map]
      exact Sample.longMapping_keys
    have hboth : argumentsInKeyOrder (fun _ => true) [("steps", .mapping Sample.longMapping)] =
        argumentsInKeyOrder (fun _ => true)
          [("steps", .mapping Sample.longMapping.reverse)] := by
      simp only [argumentsInKeyOrder, membersInKeyOrder, inKeyOrder, if_true, hsame]
    rw [hboth]
    exact sameMembersButSecrets_refl _

end SuitCode
