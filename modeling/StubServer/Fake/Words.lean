/-!
# Words of made-up data

The lists that made-up names, addresses, products and texts are put together from. Countries and
states come with their codes.
-/

namespace StubServer

namespace Fake

def firstNames : List String := [
  "James", "Mary", "John", "Patricia", "Robert", "Jennifer", "Michael", "Linda", "William",
  "Elizabeth", "David", "Barbara", "Richard", "Susan", "Joseph", "Jessica", "Thomas", "Sarah",
  "Charles", "Karen", "Emma", "Noah", "Olivia", "Liam", "Ava", "Lucas", "Mia", "Ethan"]

def lastNames : List String := [
  "Smith", "Johnson", "Williams", "Brown", "Jones", "Garcia", "Miller", "Davis", "Rodriguez",
  "Martinez", "Hernandez", "Lopez", "Gonzalez", "Wilson", "Anderson", "Thomas", "Taylor", "Moore",
  "Jackson", "Martin", "Lee", "Thompson", "White", "Harris", "Clark", "Lewis"]

def cityPrefixes : List String := [
  "North", "East", "West", "South", "New", "Lake", "Port", "Fort"]

def citySuffixes : List String := [
  "town", "ton", "land", "ville", "berg", "burgh", "borough", "bury", "view", "port", "mouth",
  "stad", "furt", "chester", "fort", "haven", "side", "shire"]

def streetSuffixes : List String := [
  "Street", "Avenue", "Road", "Lane", "Drive", "Court", "Place", "Boulevard", "Way", "Terrace"]

def counties : List String := [
  "Avon", "Bedfordshire", "Berkshire", "Buckinghamshire", "Cambridgeshire", "Cheshire", "Cornwall",
  "Cumbria", "Derbyshire", "Devon", "Dorset", "Essex", "Kent", "Surrey"]

def countries : List (String × String) := [
  ("United States", "US"), ("United Kingdom", "GB"), ("Germany", "DE"), ("France", "FR"),
  ("Japan", "JP"), ("Poland", "PL"), ("Spain", "ES"), ("Italy", "IT"), ("Canada", "CA"),
  ("Brazil", "BR"), ("Australia", "AU"), ("Sweden", "SE"), ("Netherlands", "NL")]

def states : List (String × String) := [
  ("Alabama", "AL"), ("Alaska", "AK"), ("Arizona", "AZ"), ("California", "CA"), ("Colorado", "CO"),
  ("Florida", "FL"), ("Georgia", "GA"), ("Illinois", "IL"), ("New York", "NY"), ("Ohio", "OH"),
  ("Oregon", "OR"), ("Texas", "TX"), ("Washington", "WA")]

def mainDirections : List String := [
  "North", "East", "South", "West"]

def diagonalDirections : List String := [
  "Northeast", "Northwest", "Southeast", "Southwest"]

def departments : List String := [
  "Books", "Movies", "Music", "Games", "Electronics", "Computers", "Home", "Garden", "Tools",
  "Grocery", "Health", "Beauty", "Toys", "Kids", "Baby", "Clothing", "Shoes", "Jewelery", "Sports",
  "Outdoors", "Automotive", "Industrial"]

def products : List String := [
  "Chair", "Car", "Computer", "Keyboard", "Mouse", "Bike", "Ball", "Gloves", "Pants", "Shirt",
  "Table", "Shoes", "Hat", "Towels", "Soap", "Tuna", "Chicken", "Fish", "Cheese", "Bacon"]

def productAdjectives : List String := [
  "Small", "Ergonomic", "Rustic", "Intelligent", "Gorgeous", "Incredible", "Fantastic",
  "Practical", "Sleek", "Awesome", "Generic", "Handcrafted", "Handmade", "Licensed", "Refined"]

def productMaterials : List String := [
  "Steel", "Wooden", "Concrete", "Plastic", "Cotton", "Granite", "Rubber", "Metal", "Soft",
  "Fresh", "Frozen"]

def colors : List String := [
  "red", "green", "blue", "yellow", "purple", "orange", "white", "black", "silver", "gold", "teal",
  "cyan", "magenta", "lime", "indigo", "violet"]

def companySuffixes : List String := [
  "Inc", "and Sons", "LLC", "Group"]

def catchAdjectives : List String := [
  "Adaptive", "Advanced", "Automated", "Balanced", "Business-focused", "Centralized", "Cloned",
  "Compatible", "Configurable", "Cross-platform", "Customer-focused"]

def catchDescriptors : List String := [
  "24 hour", "24/7", "3rd generation", "4th generation", "asymmetric", "asynchronous",
  "bi-directional", "bifurcated", "client-driven", "client-server", "coherent"]

def catchNouns : List String := [
  "ability", "access", "adapter", "algorithm", "alliance", "analyzer", "application", "approach",
  "architecture", "archive", "array", "attitude", "benchmark"]

def buzzVerbs : List String := [
  "implement", "utilize", "integrate", "streamline", "optimize", "evolve", "transform", "embrace",
  "enable", "orchestrate", "leverage", "reinvent", "aggregate"]

def buzzAdjectives : List String := [
  "clicks-and-mortar", "value-added", "vertical", "proactive", "robust", "revolutionary",
  "scalable", "leading-edge", "innovative", "intuitive", "strategic", "e-business"]

def buzzNouns : List String := [
  "synergies", "web-readiness", "paradigms", "markets", "partnerships", "infrastructures",
  "platforms", "initiatives", "channels", "eyeballs", "communities", "solutions"]

def accountTypes : List String := [
  "Checking", "Savings", "Money Market", "Investment", "Home Loan", "Credit Card", "Auto Loan",
  "Personal Loan"]

def hackerAbbreviations : List String := [
  "TCP", "HTTP", "SDD", "RAM", "GB", "CSS", "SSL", "AGP", "SQL", "FTP", "PCI", "AI", "ADP", "RSS",
  "XML", "EXE", "COM", "HDD", "THX", "SMTP", "SMS", "USB", "PNG", "SAS", "JBOD", "IB"]

def hackerAdjectives : List String := [
  "auxiliary", "primary", "back-end", "digital", "open-source", "virtual", "cross-platform",
  "redundant", "online", "haptic", "multi-byte", "bluetooth", "wireless", "1080p", "neural",
  "optical", "solid state", "mobile"]

def hackerNouns : List String := [
  "driver", "protocol", "bandwidth", "panel", "microchip", "program", "port", "card", "array",
  "interface", "system", "sensor", "firewall", "hard drive", "pixel", "alarm", "feed", "monitor",
  "application", "transmitter", "bus", "circuit", "capacitor", "matrix"]

def hackerVerbs : List String := [
  "back up", "bypass", "hack", "override", "compress", "copy", "navigate", "index", "connect",
  "generate", "quantify", "calculate", "synthesize", "input", "transmit", "program", "reboot",
  "parse"]

def freeEmailDomains : List String := [
  "gmail.com", "yahoo.com", "hotmail.com", "outlook.com"]

def domainSuffixes : List String := [
  "com", "net", "org", "info", "biz", "name", "io", "dev"]

def userAgents : List String := [
  "Mozilla/5.0 (Windows NT 10.0; Win64; x64) AppleWebKit/537.36 (KHTML, like " ++
    "Gecko) Chrome/120.0.0.0 Safari/537.36",
  "Mozilla/5.0 (Macintosh; Intel Mac OS X 14_2) AppleWebKit/605.1.15 (KHTML, like " ++
    "Gecko) Version/17.2 Safari/605.1.15",
  "Mozilla/5.0 (X11; Linux x86_64; rv:121.0) Gecko/20100101 Firefox/121.0",
  "Mozilla/5.0 (iPhone; CPU iPhone OS 17_2 like Mac OS X) AppleWebKit/605.1.15 " ++
    "(KHTML, like Gecko) Mobile/15E148"]

def fillerWords : List String := [
  "lorem", "ipsum", "dolor", "sit", "amet", "consectetur", "adipiscing", "elit", "sed", "do",
  "eiusmod", "tempor", "incididunt", "ut", "labore", "et", "dolore", "magna", "aliqua", "enim",
  "ad", "minim", "veniam", "quis", "nostrud", "exercitation", "ullamco", "laboris", "nisi",
  "aliquip", "ex", "ea", "commodo", "consequat", "duis", "aute", "irure", "in", "reprehenderit",
  "voluptate", "velit", "esse", "cillum", "fugiat", "nulla", "pariatur"]

def jobDescriptors : List String := [
  "Lead", "Senior", "Direct", "Corporate", "Dynamic", "Future", "Product", "National", "Regional",
  "District", "Central", "Global", "Customer", "Investor", "Internal", "Human", "Chief",
  "Principal"]

def jobAreas : List String := [
  "Solutions", "Program", "Brand", "Security", "Research", "Marketing", "Directives",
  "Implementation", "Integration", "Functionality", "Response", "Paradigm", "Tactics", "Identity",
  "Markets", "Group", "Division", "Applications", "Optimization", "Operations", "Infrastructure",
  "Intranet", "Communications", "Web", "Quality", "Assurance", "Mobility"]

def jobTypes : List String := [
  "Supervisor", "Associate", "Executive", "Liaison", "Officer", "Manager", "Engineer",
  "Specialist", "Director", "Coordinator", "Administrator", "Architect", "Analyst", "Designer",
  "Planner", "Orchestrator", "Technician", "Developer", "Producer", "Consultant", "Assistant",
  "Facilitator", "Agent", "Representative", "Strategist"]

def phoneFormats : List String := [
  "###-###-####", "(###) ###-####", "1-###-###-####", "###.###.####", "+1 ### ### ####"]

end Fake

end StubServer
