/-
The rights that new files do not get. They are written as octal digits, or as words that say which
rights the owner, the group and others have.
-/
import BundleBuild.Shell.Octets

namespace BundleBuild.Shell

/-- Nine rights, those of the owner first; each of the three has reading, writing and running. -/
abbrev Rights := Nat

def allRights : Rights := 511

/-- The rights that a set lacks. -/
def Rights.others (r : Rights) : Rights :=
  allRights - r % (allRights + 1)

/-- The three rights of the owner, the group or others, which are the parties 0, 1 and 2. -/
def Rights.of (r : Rights) (party : Nat) : Nat :=
  r / Nat.pow 8 (2 - party) % 8

/-- Rights from those of the three parties. -/
def Rights.ofParties (f : Nat → Nat) : Rights :=
  f 0 * 64 + f 1 * 8 + f 2

def maskDigits (mask : Rights) : String :=
  String.ofList ('0' :: ([0, 1, 2].map fun party => Nat.digitChar (mask.of party)))

/-- What each party may do under a mask. -/
def maskWords (mask : Rights) : String :=
  ",".intercalate (['u', 'g', 'o'].zipIdx.map fun (letter, party) =>
    let own := mask.others.of party
    String.ofList (letter :: '=' :: (([(4, 'r'), (2, 'w'), (1, 'x')].filter fun (bit, _) =>
      Nat.land own bit ≠ 0).map (·.2))))

/-- The parties that letters name. -/
def partiesOf (letters : List Char) : List Nat :=
  if letters.isEmpty || letters.contains 'a' then [0, 1, 2]
  else ['u', 'g', 'o'].zipIdx.filterMap fun (letter, party) =>
    if letters.contains letter then some party else none

/-- The rights that letters name; those of a party are what it has at first. -/
def rightsOf (first : Rights) (letters : List Char) : Nat :=
  letters.foldl (fun rights letter => Nat.lor rights (match letter with
    | 'r' => 4
    | 'w' => 2
    | 'x' => 1
    | 'u' => first.of 0
    | 'g' => first.of 1
    | 'o' => first.of 2
    | 'X' => if [0, 1, 2].any fun party => (first.of party) % 2 = 1 then 1 else 0
    | _ => 0)) 0

/-- One change of the rights of some parties. -/
def changeRights (first rights : Rights) (parties : List Nat) (sign : Char) (letters : List Char) :
    Rights :=
  let given := rightsOf first letters
  Rights.ofParties fun party =>
    let own := rights.of party
    if !parties.contains party then own
    else match sign with
      | '+' => Nat.lor own given
      | '-' => own - Nat.land own given
      | _ => given

def isChange (c : Char) : Bool :=
  c = '=' || c = '+' || c = '-'

/-- The changes of a mode one after another; what cannot be read of it is left. -/
def changesOf (first : Rights) : Nat → List Nat → Rights → List Char → Rights × List Char
  | 0, _, rights, cs => (rights, cs)
  | _ + 1, _, rights, [] => (rights, [])
  | fuel + 1, before, rights, cs =>
    let who := cs.takeWhile ['a', 'u', 'g', 'o'].contains
    let parties := if who.isEmpty && !before.isEmpty then before else partiesOf who
    match cs.drop who.length with
    | [] => (rights, [])
    | sign :: rest =>
      if !isChange sign then (rights, sign :: rest)
      else
        let letters := rest.takeWhile ['r', 'w', 'x', 'u', 'g', 'o', 'X', 's'].contains
        let rights' := changeRights first rights parties sign letters
        match rest.drop letters.length with
        | ',' :: after => changesOf first fuel [] rights' after
        | c :: after =>
          if isChange c then changesOf first fuel parties rights' (c :: after)
          else (rights', c :: after)
        | [] => (rights', [])

/-- The mask after a change by octal digits or by words. -/
def readMask (mask : Rights) (mode : String) : Except String Rights :=
  let cs := mode.toList
  if (cs.head?.map Char.isDigit).getD false then
    if cs.all fun c => '0' ≤ c && c ≤ '7' then
      .ok (cs.foldl (fun n c => n * 8 + (c.toNat - '0'.toNat)) 0 % (allRights + 1))
    else .error ("Illegal number: " ++ mode)
  else
    match changesOf mask.others (cs.length + 1) [] mask.others cs with
    | (rights, []) => .ok rights.others
    | _ => .error ("Illegal mode: " ++ mode)

end BundleBuild.Shell
