import StubServer.Fake.Dates
import StubServer.Fake.Draw

/-!
# The catalogue of made-up data

Every kind of made-up data has a path in the catalogue, and some have a short name besides.
-/

namespace StubServer

namespace Fake

open Template Time
open Making (pick)

/-- How a kind of data is made. Only dates depend on the time and may be out of range. -/
inductive Generator where
  | plain (draw : Making Value)
  | ranged (draw : Arguments → Making Value)
  | dated (draw : Instant → Arguments → Random (Option Instant))

def text (draw : Making String) : Generator :=
  .plain (.string <$> draw)

def number (draw : Making Float) : Generator :=
  .plain (.number <$> draw)

def natural (draw : Making Nat) : Generator :=
  number (Float.ofNat <$> draw)

def integer (draw : Making Int) : Generator :=
  number (Float.ofInt <$> draw)

def decimal (places : Nat) (draw : Making Float) : Generator :=
  number ((rounded · places) <$> draw)

/-- One word of each list, with spaces between them. -/
def phrase (lists : List (List String)) : Making String :=
  concat ((lists.map pick).intersperse (pure " "))

def hackerPhrase : Making String :=
  concat [pure "If we ", pick hackerVerbs, pure " the ", pick hackerNouns,
    pure ", we can get to the ", pick hackerAbbreviations, pure " ", pick hackerNouns,
    pure " through the ", pick hackerAdjectives, pure " ", pick hackerAbbreviations, pure "!"]

/-- The bounds given as arguments, in either order; a single one is the upper bound. -/
def bounds (args : Arguments) (low high : Int) : Int × Int :=
  let (a, b) :=
    match args.integer? 0, args.integer? 1 with
    | some a, some b => (a, b)
    | some b, none => (min low b, b)
    | none, _ => (low, high)
  if a ≤ b then (a, b) else (b, a)

/-- An integer within the bounds that are given, or within `low` and `high`. -/
def integerWithin (low high : Int) : Generator :=
  .ranged fun args =>
    let (a, b) := bounds args low high
    return .number (Float.ofInt (← Making.between a b))

def addressGenerators : List (String × Generator) := [
  ("address.zipcode", text (digitsFor "#####")),
  ("address.city", text city),
  ("address.streetaddress", text streetAddress),
  ("address.cityprefix", text (pick cityPrefixes)),
  ("address.citysuffix", text (pick citySuffixes)),
  ("address.streetname", text streetName),
  ("address.buildingnumber", text buildingNumber),
  ("address.streetsuffix", text (pick streetSuffixes)),
  ("address.secondaryaddress", text do digitsFor (← pick ["Apt. ###", "Suite ###"])),
  ("address.county", text (pick counties)),
  ("address.country", text (Prod.fst <$> pick countries)),
  ("address.fulladdress", text address),
  ("address.countrycode", text (Prod.snd <$> pick countries)),
  ("address.state", text (Prod.fst <$> pick states)),
  ("address.stateabbr", text (Prod.snd <$> pick states)),
  ("address.latitude", decimal 4 (Making.floatBetween (-90) 90)),
  ("address.longitude", decimal 4 (Making.floatBetween (-180) 180)),
  ("address.direction", text (pick (mainDirections ++ diagonalDirections))),
  ("address.cardinaldirection", text (pick mainDirections)),
  ("address.ordinaldirection", text (pick diagonalDirections))]

def commerceGenerators : List (String × Generator) := [
  ("commerce.department", text (pick departments)),
  ("commerce.price", decimal 2 (Making.floatBelow 1 1000)),
  ("commerce.categories", text (pick departments)),
  ("commerce.productname", text (phrase [productAdjectives, productMaterials, products])),
  ("commerce.color", text (pick colors)),
  ("commerce.product", text (pick products)),
  ("commerce.productadjective", text (pick productAdjectives)),
  ("commerce.productmaterial", text (pick productMaterials)),
  ("commerce.ean8", text (articleNumber 8)),
  ("commerce.ean13", text (articleNumber 13))]

def companyGenerators : List (String × Generator) := [
  ("company.companysuffix", text (pick companySuffixes)),
  ("company.companyname", text (phrase [lastNames, companySuffixes])),
  ("company.catchphrase", text (phrase [catchAdjectives, catchDescriptors, catchNouns])),
  ("company.bs", text (phrase [buzzVerbs, buzzAdjectives, buzzNouns]))]

def databaseGenerators : List (String × Generator) := [
  ("database.column",
    text (pick ["id", "title", "name", "email", "createdAt", "updatedAt", "status", "comment"])),
  ("database.type",
    text (pick ["int", "varchar", "text", "date", "datetime", "boolean", "decimal", "uuid",
      "json"])),
  ("database.collation",
    text (pick ["utf8_unicode_ci", "utf8_general_ci", "utf8_bin", "ascii_bin",
      "cp1250_general_ci"])),
  ("database.engine", text (pick ["InnoDB", "MyISAM", "MEMORY", "CSV", "ARCHIVE"]))]

def dateGenerators : List (String × Generator) := [
  ("date.past", .dated (awayYears .back)),
  ("date.future", .dated (awayYears .forth)),
  ("date.between", .dated between),
  ("date.recent", .dated (awayDays .back)),
  ("date.soon", .dated (awayDays .forth))]

def financeGenerators : List (String × Generator) := [
  ("finance.account", text (digitsFor "########")),
  ("finance.accountname", text (concat [pick accountTypes, pure " Account"])),
  ("finance.amount", decimal 2 (Making.floatBelow 0 1000)),
  ("finance.transactiontype", text (pick ["deposit", "withdrawal", "payment", "invoice"])),
  ("finance.currency", text (pick ["USD", "EUR", "GBP", "JPY", "CHF", "CAD", "AUD", "SEK", "PLN"])),
  ("finance.creditcardnumber", text (digitsFor "4###-####-####-####")),
  ("finance.creditcardcvv", text (digitsFor "###")),
  ("finance.routingnumber", text (digitsFor "#########")),
  ("finance.bic", text (concat [lettersFor "????", Prod.snd <$> pick countries, lettersFor "??"])),
  ("finance.iban",
    text (concat [Prod.snd <$> pick countries, digitsFor "##", digitsFor "####################"]))]

def hackerGenerators : List (String × Generator) := [
  ("hacker.abbreviation", text (pick hackerAbbreviations)),
  ("hacker.adjective", text (pick hackerAdjectives)),
  ("hacker.noun", text (pick hackerNouns)),
  ("hacker.verb", text (pick hackerVerbs)),
  ("hacker.ingverb", text (concat [pick hackerVerbs, pure "ing"])),
  ("hacker.phrase", text hackerPhrase)]

def internetGenerators : List (String × Generator) := [
  ("internet.avatar",
    text (concat [pure "https://cdn.example.com/avatars/", numeral 1 1000, pure ".jpg"])),
  ("internet.email", text (email freeEmailDomains)),
  ("internet.exampleemail", text (email ["example.com", "example.net", "example.org"])),
  ("internet.username", text userName),
  ("internet.domainname", text domainName),
  ("internet.domainword", text domainWord),
  ("internet.domainsuffix", text (pick domainSuffixes)),
  ("internet.ip", text ipv4),
  ("internet.port", natural port),
  ("internet.ipaddress", text ipv4),
  ("internet.ipendpoint", text (concat [ipv4, pure ":", toString <$> port])),
  ("internet.ipv6", text ipv6),
  ("internet.ipv6address", text ipv6),
  ("internet.useragent", text (pick userAgents)),
  ("internet.mac", text (joined ":" 6 (hex (Random.bits 8) 2))),
  ("internet.password", text (alphanumeric 10)),
  ("internet.color", text (concat [pure "#", hex (Making.below32 0x1000000) 6])),
  ("internet.protocol", text (pick ["http", "https"])),
  ("internet.url", text url),
  ("internet.urlwithpath", text (concat [url, rootedPath])),
  ("internet.urlrootedpath", text rootedPath)]

def loremGenerators : List (String × Generator) := [
  ("lorem.word", text (pick fillerWords)),
  ("lorem.words", text (words 3)),
  ("lorem.letter", text (lettersFor "?")),
  ("lorem.sentence", text sentence),
  ("lorem.sentences", text (someSentences " " 2 5)),
  ("lorem.paragraph", text (sentences " " 3)),
  ("lorem.paragraphs", text (joined "\n\n" 3 (sentences " " 3))),
  ("lorem.text", text (someSentences " " 1 3)),
  ("lorem.lines", text (someSentences "\n" 1 5)),
  ("lorem.slug", text (joined "-" 3 (pick fillerWords)))]

def nameGenerators : List (String × Generator) := [
  ("name.firstname", text (pick firstNames)),
  ("name.lastname", text (pick lastNames)),
  ("name.fullname", text fullName),
  ("name.prefix", text (pick ["Mr.", "Mrs.", "Ms.", "Miss", "Dr."])),
  ("name.suffix", text (pick ["Jr.", "Sr.", "I", "II", "III", "IV", "V", "MD", "DDS", "PhD"])),
  ("name.findname", text fullName),
  ("name.jobtitle", text (phrase [jobDescriptors, jobAreas, jobTypes])),
  ("name.jobdescriptor", text (pick jobDescriptors)),
  ("name.jobarea", text (pick jobAreas)),
  ("name.jobtype", text (pick jobTypes))]

def phoneGenerators : List (String × Generator) := [
  ("phone.phonenumber", text do digitsFor (← pick phoneFormats)),
  ("phone.phonenumberformat", text (pick phoneFormats))]

def basicsGenerators : List (String × Generator) := [
  ("number", integerWithin 0 1),
  ("digits", natural (Making.belowSmall 10)),
  ("even", natural ((2 * ·) <$> Making.below32 6)),
  ("odd", natural ((2 * · + 1) <$> Making.below32 5)),
  ("double", number Random.fraction),
  ("decimal", number Random.fraction),
  ("float", number Random.shortFraction),
  ("byte", natural (Random.bits 8)),
  ("sbyte", integer (Random.signedBits 8)),
  ("int", integerWithin Number.minInt32 Number.maxInt32),
  ("uint", natural Random.word32),
  ("long", integer ((Int.bmod · Number.size64) <$> Random.word64)),
  ("ulong", natural Random.word64),
  ("short", integer (Random.signedBits 16)),
  ("ushort", natural (Random.bits 16)),
  ("char", text (letters 1)),
  ("chars", text (letters 5)),
  ("string", text (letters 10)),
  ("string2", text (letters 10)),
  ("hash", text (joined "" 40 (hex (Making.belowSmall 16) 1))),
  ("bool", .plain (.bool <$> Random.coin)),
  ("word", text (pick fillerWords)),
  ("words", text (words 3)),
  ("wordsarray", text (words 3)),
  ("guid", text uuid),
  ("uuid", text uuid),
  ("alphanumeric", text (alphanumeric 10))]

/-- The generators by their paths. -/
def catalogue : List (String × Generator) :=
  addressGenerators ++ commerceGenerators ++ companyGenerators ++
  databaseGenerators ++ dateGenerators ++ financeGenerators ++
  hackerGenerators ++ internetGenerators ++ loremGenerators ++
  nameGenerators ++ phoneGenerators ++ basicsGenerators

/-- The paths, as they are listed. -/
def paths : List String := [
  "address.zipcode", "address.city", "address.streetaddress", "address.cityprefix",
  "address.citysuffix", "address.streetname", "address.buildingnumber", "address.streetsuffix",
  "address.secondaryaddress", "address.county", "address.country", "address.fulladdress",
  "address.countrycode", "address.state", "address.stateabbr", "address.latitude",
  "address.longitude", "address.direction", "address.cardinaldirection", "address.ordinaldirection",
  "commerce.department", "commerce.price", "commerce.categories", "commerce.productname",
  "commerce.color", "commerce.product", "commerce.productadjective", "commerce.productmaterial",
  "commerce.ean8", "commerce.ean13",
  "company.companysuffix", "company.companyname", "company.catchphrase", "company.bs",
  "database.column", "database.type", "database.collation", "database.engine",
  "date.past", "date.future", "date.between", "date.recent", "date.soon",
  "finance.account", "finance.accountname", "finance.amount", "finance.transactiontype",
  "finance.currency", "finance.creditcardnumber", "finance.creditcardcvv", "finance.routingnumber",
  "finance.bic", "finance.iban",
  "hacker.abbreviation", "hacker.adjective", "hacker.noun", "hacker.verb", "hacker.ingverb",
  "hacker.phrase",
  "internet.avatar", "internet.email", "internet.exampleemail", "internet.username",
  "internet.domainname", "internet.domainword", "internet.domainsuffix", "internet.ip",
  "internet.port", "internet.ipaddress", "internet.ipendpoint", "internet.ipv6",
  "internet.ipv6address", "internet.useragent", "internet.mac", "internet.password",
  "internet.color", "internet.protocol", "internet.url", "internet.urlwithpath",
  "internet.urlrootedpath",
  "lorem.word", "lorem.words", "lorem.letter", "lorem.sentence", "lorem.sentences",
  "lorem.paragraph", "lorem.paragraphs", "lorem.text", "lorem.lines", "lorem.slug",
  "name.firstname", "name.lastname", "name.fullname", "name.prefix", "name.suffix", "name.findname",
  "name.jobtitle", "name.jobdescriptor", "name.jobarea", "name.jobtype",
  "phone.phonenumber", "phone.phonenumberformat",
  "number", "digits", "even", "odd", "double", "decimal", "float", "byte", "sbyte", "int", "uint",
  "long", "ulong", "short", "ushort", "char", "chars", "string", "string2", "hash", "bool", "word",
  "words", "wordsarray", "guid", "uuid", "alphanumeric"]

/-- Short names and the paths they stand for. -/
def shortNames : List (String × String) := [
  ("number", "number"), ("int", "int"), ("float", "float"), ("boolean", "bool"),
  ("title", "name.jobtitle"), ("firstname", "name.firstname"), ("lastname", "name.lastname"),
  ("company", "company.companyname"), ("domain", "internet.domainname"),
  ("tld", "internet.domainsuffix"), ("email", "internet.email"), ("street", "address.streetname"),
  ("city", "address.city"), ("country", "address.country"), ("countrycode", "address.countrycode"),
  ("zipcode", "address.zipcode"), ("postcode", "address.zipcode"), ("lat", "address.latitude"),
  ("long", "address.longitude"), ("phone", "phone.phonenumber"), ("color", "internet.color"),
  ("hexcolor", "internet.color"), ("guid", "guid"), ("uuid", "uuid"), ("ipv4", "internet.ip"),
  ("ipv6", "internet.ipv6"), ("lorem", "lorem.text")]

def find? (path : String) : Option Generator :=
  catalogue.lookup path

end Fake

end StubServer
