import StubServer.Text.Split

/-!
# A sample configuration

The configuration that the command line prints for users to start from.
-/

namespace StubServer

namespace CommandLine

def sampleConfig : String := Text.join "\n" [
  "\x7b",
  "  \"environments\": [",
  "    \x7b",
  "      \"name\": \"local\",",
  "      \"isActive\": true,",
  "      \"routes\": [",
  "        \x7b",
  "          \"urlTemplate\": \"/hello\",",
  "          \"httpMethod\": \"GET\",",
  "          \"responses\": [",
  "            \x7b",
  "              \"name\": \"greeting\",",
  "              \"statusCode\": 200,",
  "              \"body\": \"Hello, \x7b\x7b queryParam 'name' 'World' \x7d\x7d!\",",
  "              \"headers\": [\x7b \"key\": \"Content-Type\", \"value\": \"text/plain\" " ++
    "\x7d]",
  "            \x7d",
  "          ]",
  "        \x7d,",
  "        \x7b",
  "          \"urlTemplate\": \"/users/\x7bid:int\x7d\",",
  "          \"httpMethod\": \"GET, PUT\",",
  "          \"responses\": [",
  "            \x7b",
  "              \"name\": \"admin\",",
  "              \"statusCode\": 200,",
  "              \"body\": \"\x7b \\\"id\\\": \x7b\x7b urlParam 'id' \x7d\x7d, " ++
    "\\\"role\\\": \\\"admin\\\" \x7d\",",
  "              \"rules\": [",
  "                \x7b \"type\": \"Header\", \"key\": \"X-Role\", \"operation\": " ++
    "\"Equals\", \"value\": \"admin\" \x7d",
  "              ]",
  "            \x7d,",
  "            \x7b",
  "              \"name\": \"user\",",
  "              \"statusCode\": 200,",
  "              \"body\": \"\x7b \\\"id\\\": \x7b\x7b urlParam 'id' \x7d\x7d, " ++
    "\\\"name\\\": \\\"\x7b\x7b faker 'name.fullname' \x7d\x7d\\\", \\\"email\\\": " ++
    "\\\"\x7b\x7b faker 'internet.email' \x7d\x7d\\\" \x7d\"",
  "            \x7d",
  "          ]",
  "        \x7d,",
  "        \x7b",
  "          \"urlTemplate\": \"/users\",",
  "          \"httpMethod\": \"GET\",",
  "          \"responses\": [",
  "            \x7b",
  "              \"name\": \"list\",",
  "              \"statusCode\": 200,",
  "              \"body\": \"[\\n\x7b\x7b#repeat 3 ','\x7d\x7d\\n  \x7b \\\"id\\\": " ++
    "\x7b\x7b add @index 1 \x7d\x7d, \\\"city\\\": \\\"\x7b\x7b faker 'address.city' " ++
    "\x7d\x7d\\\" \x7d\\n\x7b\x7b/repeat\x7d\x7d\\n]\",",
  "              \"allowResponseCaching\": true",
  "            \x7d",
  "          ]",
  "        \x7d,",
  "        \x7b",
  "          \"urlTemplate\": \"/flaky\",",
  "          \"httpMethod\": \"GET, POST\",",
  "          \"responseSelectionStrategy\": \"Sequence\",",
  "          \"responses\": [",
  "            \x7b \"name\": \"ok\", \"statusCode\": 200, \"body\": \"\x7b \\\"ok\\\": " ++
    "true \x7d\" \x7d,",
  "            \x7b \"name\": \"unavailable\", \"statusCode\": 503, \"body\": \"\x7b " ++
    "\\\"ok\\\": false \x7d\", \"delay\": 250 \x7d",
  "          ]",
  "        \x7d,",
  "        \x7b",
  "          \"urlTemplate\": \"/assets/\x7b**path\x7d\",",
  "          \"httpMethod\": \"GET\",",
  "          \"responses\": [",
  "            \x7b",
  "              \"name\": \"asset\",",
  "              \"statusCode\": 200,",
  "              \"body\": \"asset \x7b\x7b urlParam 'path' \x7d\x7d\",",
  "              \"headers\": [\x7b \"key\": \"Content-Type\", \"value\": \"text/plain\" " ++
    "\x7d]",
  "            \x7d",
  "          ]",
  "        \x7d",
  "      ]",
  "    \x7d",
  "  ],",
  "  \"settings\": \x7b",
  "    \"logMatches\": true,",
  "    \"logUnmatched\": true,",
  "    \"defaultContentType\": \"application/json\"",
  "  \x7d",
  "\x7d",
  ""]

end CommandLine

end StubServer
