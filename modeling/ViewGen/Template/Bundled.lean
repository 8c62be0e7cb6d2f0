/-!
# Bundled templates

The templates used when no directory of templates is given, line by line.
-/

namespace ViewGen.Template.Bundled

/-- A text of lines, each with its line feed. -/
def ofLines (lines : List String) : String :=
  String.join (lines.map (· ++ "\n"))

/-- All records in a table. -/
def list : String := ofLines [
  "\x7b% set var = model.name | camel_case %\x7d",
  "import type \x7b LoaderFunctionArgs \x7d from \"@remix-run/node\";",
  "import \x7b json \x7d from \"@remix-run/node\";",
  "import \x7b Link, useLoaderData \x7d from \"@remix-run/react\";",
  "import \x7b db \x7d from \"~/db.server\";",
  "",
  "export async function loader(\x7b request \x7d: LoaderFunctionArgs) \x7b",
  "  const \x7b\x7b var | plural \x7d\x7d = await db.\x7b\x7b var \x7d\x7d.findMany();",
  "  return json(\x7b \x7b\x7b var | plural \x7d\x7d \x7d);",
  "\x7d",
  "",
  "export default function \x7b\x7b model.name \x7d\x7dList() \x7b",
  "  const \x7b \x7b\x7b var | plural \x7d\x7d \x7d = useLoaderData<typeof loader>();",
  "",
  "  return (",
  "    <div>",
  "      <h1>\x7b\x7b model.name | plural \x7d\x7d</h1>",
  "      <Link to=\"create\">New \x7b\x7b model.name \x7d\x7d</Link>",
  "      <table>",
  "        <thead>",
  "          <tr>",
  "\x7b% for field in model.scalar_fields %\x7d",
  "            <th>\x7b\x7b field.name \x7d\x7d</th>",
  "\x7b% endfor %\x7d",
  "            <th />",
  "          </tr>",
  "        </thead>",
  "        <tbody>",
  "          \x7b\x7b '\x7b' \x7d\x7d\x7b\x7b var | plural \x7d\x7d.map((item) => (",
  "            <tr key=\x7bitem.id\x7d>",
  "\x7b% for field in model.scalar_fields %\x7d",
  "              <td>\x7bString(item.\x7b\x7b field.name \x7d\x7d ?? \"\")\x7d</td>",
  "\x7b% endfor %\x7d",
  "              <td>",
  "                <Link to=\x7b`$\x7bitem.id\x7d/update`\x7d>Edit</Link>\x7b\" \"\x7d",
  "                <Link to=\x7b`$\x7bitem.id\x7d/delete`\x7d>Delete</Link>",
  "              </td>",
  "            </tr>",
  "          ))\x7b\x7b '\x7d' \x7d\x7d",
  "        </tbody>",
  "      </table>",
  "    </div>",
  "  );",
  "\x7d"]

/-- A form for a new record. -/
def create : String := ofLines [
  "\x7b% set var = model.name | camel_case %\x7d",
  "import type \x7b ActionFunctionArgs \x7d from \"@remix-run/node\";",
  "import \x7b redirect \x7d from \"@remix-run/node\";",
  "import \x7b Form \x7d from \"@remix-run/react\";",
  "import \x7b db \x7d from \"~/db.server\";",
  "",
  "export async function action(\x7b request \x7d: ActionFunctionArgs) \x7b",
  "  const formData = await request.formData();",
  "  await db.\x7b\x7b var \x7d\x7d.create(\x7b",
  "    data: \x7b",
  "\x7b% for field in model.scalar_fields if field.default is none %\x7d",
  "      \x7b\x7b field.name \x7d\x7d: formData.get(\"\x7b\x7b field.name \x7d\x7d\") as string,",
  "\x7b% endfor %\x7d",
  "    \x7d,",
  "  \x7d);",
  "  return redirect(\"/\x7b\x7b model.name | kebab_case \x7d\x7d\");",
  "\x7d",
  "",
  "export default function Create\x7b\x7b model.name \x7d\x7d() \x7b",
  "  return (",
  "    <Form method=\"post\">",
  "      <h1>New \x7b\x7b model.name \x7d\x7d</h1>",
  "\x7b% for field in model.scalar_fields if field.default is none %\x7d",
  "      <label>",
  "        \x7b\x7b field.name \x7d\x7d",
  "        <input type=\"\x7b\x7b field | input_type \x7d\x7d\" name=\"\x7b\x7b field.name \x7d\x7d\"\x7b% if field.is_required %\x7d required\x7b% endif %\x7d />",
  "      </label>",
  "\x7b% endfor %\x7d",
  "      <button type=\"submit\">Create</button>",
  "    </Form>",
  "  );",
  "\x7d"]

/-- A form for an existing record. -/
def update : String := ofLines [
  "\x7b% set var = model.name | camel_case %\x7d",
  "import type \x7b ActionFunctionArgs, LoaderFunctionArgs \x7d from \"@remix-run/node\";",
  "import \x7b json, redirect \x7d from \"@remix-run/node\";",
  "import \x7b Form, useLoaderData \x7d from \"@remix-run/react\";",
  "import \x7b db \x7d from \"~/db.server\";",
  "",
  "export async function loader(\x7b params \x7d: LoaderFunctionArgs) \x7b",
  "  const \x7b\x7b var \x7d\x7d = await db.\x7b\x7b var \x7d\x7d.findUnique(\x7b where: \x7b id: params.id \x7d \x7d);",
  "  if (!\x7b\x7b var \x7d\x7d) \x7b",
  "    throw new Response(\"Not Found\", \x7b status: 404 \x7d);",
  "  \x7d",
  "  return json(\x7b \x7b\x7b var \x7d\x7d \x7d);",
  "\x7d",
  "",
  "export async function action(\x7b request, params \x7d: ActionFunctionArgs) \x7b",
  "  const formData = await request.formData();",
  "  await db.\x7b\x7b var \x7d\x7d.update(\x7b",
  "    where: \x7b id: params.id \x7d,",
  "    data: \x7b",
  "\x7b% for field in model.scalar_fields if not field.is_unique %\x7d",
  "      \x7b\x7b field.name \x7d\x7d: formData.get(\"\x7b\x7b field.name \x7d\x7d\") as string,",
  "\x7b% endfor %\x7d",
  "    \x7d,",
  "  \x7d);",
  "  return redirect(\"/\x7b\x7b model.name | kebab_case \x7d\x7d\");",
  "\x7d",
  "",
  "export default function Update\x7b\x7b model.name \x7d\x7d() \x7b",
  "  const \x7b \x7b\x7b var \x7d\x7d \x7d = useLoaderData<typeof loader>();",
  "",
  "  return (",
  "    <Form method=\"post\">",
  "      <h1>Edit \x7b\x7b model.name \x7d\x7d</h1>",
  "\x7b% for field in model.scalar_fields if not field.is_unique %\x7d",
  "      <label>",
  "        \x7b\x7b field.name \x7d\x7d",
  "        <input type=\"\x7b\x7b field | input_type \x7d\x7d\" name=\"\x7b\x7b field.name \x7d\x7d\" defaultValue=\x7bString(\x7b\x7b var \x7d\x7d.\x7b\x7b field.name \x7d\x7d ?? \"\")\x7d />",
  "      </label>",
  "\x7b% endfor %\x7d",
  "      <button type=\"submit\">Save</button>",
  "    </Form>",
  "  );",
  "\x7d"]

/-- The question whether to delete a record. -/
def delete : String := ofLines [
  "\x7b% set var = model.name | camel_case %\x7d",
  "import type \x7b ActionFunctionArgs \x7d from \"@remix-run/node\";",
  "import \x7b redirect \x7d from \"@remix-run/node\";",
  "import \x7b Form \x7d from \"@remix-run/react\";",
  "import \x7b db \x7d from \"~/db.server\";",
  "",
  "export async function action(\x7b params \x7d: ActionFunctionArgs) \x7b",
  "  await db.\x7b\x7b var \x7d\x7d.delete(\x7b where: \x7b id: params.id \x7d \x7d);",
  "  return redirect(\"/\x7b\x7b model.name | kebab_case \x7d\x7d\");",
  "\x7d",
  "",
  "export default function Delete\x7b\x7b model.name \x7d\x7d() \x7b",
  "  return (",
  "    <Form method=\"post\">",
  "      <p>Delete this \x7b\x7b model.name \x7d\x7d?</p>",
  "      <button type=\"submit\">Delete</button>",
  "    </Form>",
  "  );",
  "\x7d"]

/-- A search over the text fields. -/
def search : String := ofLines [
  "\x7b% set var = model.name | camel_case %\x7d",
  "import type \x7b LoaderFunctionArgs \x7d from \"@remix-run/node\";",
  "import \x7b json \x7d from \"@remix-run/node\";",
  "import \x7b Form, useLoaderData \x7d from \"@remix-run/react\";",
  "import \x7b db \x7d from \"~/db.server\";",
  "",
  "export async function loader(\x7b request \x7d: LoaderFunctionArgs) \x7b",
  "  const q = new URL(request.url).searchParams.get(\"q\") ?? \"\";",
  "  const results = q",
  "    ? await db.\x7b\x7b var \x7d\x7d.findMany(\x7b",
  "        where: \x7b",
  "          OR: [",
  "\x7b% for field in model.scalar_fields if field.type == \"String\" %\x7d",
  "            \x7b \x7b\x7b field.name \x7d\x7d: \x7b contains: q \x7d \x7d,",
  "\x7b% endfor %\x7d",
  "          ],",
  "        \x7d,",
  "      \x7d)",
  "    : [];",
  "  return json(\x7b q, results \x7d);",
  "\x7d",
  "",
  "export default function Search\x7b\x7b model.name | plural \x7d\x7d() \x7b",
  "  const \x7b q, results \x7d = useLoaderData<typeof loader>();",
  "",
  "  return (",
  "    <div>",
  "      <Form method=\"get\">",
  "        <input type=\"search\" name=\"q\" defaultValue=\x7bq\x7d />",
  "        <button type=\"submit\">Search</button>",
  "      </Form>",
  "      <ul>",
  "        \x7bresults.map((item) => (",
  "          <li key=\x7bitem.id\x7d>\x7bJSON.stringify(item)\x7d</li>",
  "        ))\x7d",
  "      </ul>",
  "    </div>",
  "  );",
  "\x7d"]

end ViewGen.Template.Bundled
