import BindingStubs.TypeTable.Basic

set_option autoImplicit false

/-! # The shipped type table -/

namespace BindingStubs.TypeTable

def shippedIds : List String := Text.listed "
App::(Annotation(,Label,)ConditionalExpression,ConstantExpression,Document(,Object(,Extension,
FileIncluded,Group(,Python,)))Expression,Extension(,Container,)Feature(Python,Test(,AbsAddress,
Attribute,Column,Exception,Placement,Row,))FunctionExpression,GeoFeature(,GroupExtension(,Python,))
GeometryPython,GroupExtension(,Python,)InventorObject,Line,Link(,BaseExtension(,Python,)Element(,
Python,)Extension(,Python,)Group(,Python,)Python,)MaterialObject(,Python,)MeasureDistance,
NumberExpression,OperatorExpression,Origin(,Feature,GroupExtension(,Python,))Part,Placement(,
Python,)Plane,Property(,Acceleration,Angle,Area,Bool(,List,)Color(,List,)ComplexGeoData,Container,
Direction,Distance,ElectricPotential,Enumeration,Expression(Container,Engine,)File(,Included,)
Float(,Constraint,List,)Font,Force,Frequency,Geometry,Integer(,Constraint,List,Set,)Length,Link(,
Base,Child,Global,Hidden,List(,Base,Child,Global,Hidden,)Sub(,Child,Global,Hidden,List(,Child,
Global,Hidden,)))Lists,Map,Material(,List,)Matrix,Path,Percent,PersistentObject,Placement(,Link,
List,)Position,Precision,Pressure,PythonObject,Quantity(,Constraint,)Rotation,Speed,String(,List,)
UUID,VacuumPermittivity,Vector(,Distance,List,)Volume,XLink(,Container,List,Sub(,List,)))
PyObjectExpression,RangeExpression,StringExpression,TextDocument,TransactionalObject,UnitExpression,
VRMLObject,VariableExpression,)ApplicationIndex,Attacher::Attach(Engine(,Line,Plane,Point,)
Engine3D,)Base::(AbortException,BaseClass,Exception,Persistence,Type,)BlenderNavigationStyle,
CADNavigationStyle,CloudGui::Workbench,Data::(ComplexGeoData,Segment,)Document(Index,ModelIndex,)
Drawing(::(Feature(Clip,Page,Projection,View(,Annotation,Part(,Python,)Python,Spreadsheet,Symbol,))
PageGroup,)Gui::(ViewProviderDrawing(Clip,Page,View(,Python,))Workbench,))Fem(::(Constraint(,
Bearing,Contact,Displacement,Fixed,FluidBoundary,Force,Gear,Heatflux,InitialTemperature,
PlaneRotation,Pressure,Pulley,Python,Spring,Temperature,Transform,)DocumentObject,FeaturePython,Fem(
Analysis(,Python,)Mesh(,Object(,Python,)Shape(NetgenObject,Object,))Post(ClipFilter,CutFilter,Data(
AlongLineFilter,AtPointFilter,)Filter,Function(,Provider,)Object,Pipeline,PlaneFunction,
ScalarClipFilter,SphereFunction,WarpVectorFilter,)ResultObject(,Python,)Set(ElementsObject,
FacesObject,GeometryObject,NodesObject,Object,)SolverObject(,Python,))Property(FemMesh,
PostDataObject,))Gui::(PropertyFemMeshItem,ViewProvider(Fem(Analysis(,Python,)Constraint(,Bearing,
Contact,Displacement,Fixed,FluidBoundary,Force,Gear,Heatflux,InitialTemperature,OnBoundary,
PlaneRotation,Pressure,Pulley,Python,Spring,Temperature,Transform,)Mesh(,Python,Shape(,Netgen,))
Post(Clip,Cut,Data(AlongLine,AtPoint,)Function(,Provider,)Object,Pipeline,PlaneFunction,ScalarClip,
SphereFunction,WarpVector,))Result(,Python,)Set(Elements,Faces,Geometry,Nodes,)Solver(,Python,))
Workbench,))GLFlagWindow,GLGraphicsItem,GestureNavigationStyle,Gui::(AbstractSplitView,AxisOrigin,
BaseView,BlankWorkbench,EditorView,LinkView,MDIView,NoneWorkbench,Python(BaseWorkbench,
BlankWorkbench,EditorView,Workbench,)SoFCDB,SplitView3DInventor,StdWorkbench,TestWorkbench,
TextDocumentEditorView,ViewProvider(,Annotation(,Label,)DocumentObject(,Group(,Python,))Dragger,
Extension(,Python,)Extern,Feature,GeoFeatureGroup(,Extension(,Python,)Python,)GeometryObject,
GroupExtension(,Python,)InventorObject,Line,Link(,Observer,Python,)MaterialObject(,Python,)
MeasureDistance,Origin(,Feature,Group(,Extension(,Python,)))Part,Placement(,Python,)Plane,
PointMarker,Python(Feature,Geometry,)TextDocument,VRMLObject,)View3DInventor,Workbench,)Image(
::ImagePlane,Gui::(ImageView,ViewProviderImagePlane,Workbench,))ImportGui::Workbench,Inspection(::(
Feature,Group,PropertyDistanceList,)Gui::(ViewProviderInspection(,Group,)Workbench,))
InventorNavigationStyle,MayaGestureNavigationStyle,Measure::Measurement,Mesh(::(Cone,Cube,Curvature,
Cylinder,Ellipsoid,Export,Feature(,Custom,Python,)FillHoles,Fix(Defects,Deformations,Degenerations,
Duplicated(Faces,Points,)Indices,NonManifolds,)FlipNormals,HarmonizeNormals,Import,Mesh(Object,
Segment,)Property(CurvatureList,Material,MeshKernel,NormalList,)RemoveComponents,SegmentByMesh,
SetOperations,Sphere,Torus,Transform(,Demolding,))Gui::(PropertyMeshKernelItem,ViewProvider(Export,
IndexedFaceSet,Mesh(,Curvature,Defects,Degenerations,Duplicated(Faces,Points,)FaceSet,Folds,Indices,
Non(ManifoldPoints,Manifolds,)Object,Orientation,SelfIntersections,Transform(,Demolding,))Python,)
Workbench,)PartGui::(ViewProviderCurveOnMesh,Workbench,))NavigationStyle,Open(
CascadeNavigationStyle,SCADNavigationStyle,)Part(::(AttachExtension(,Python,)BodyBase,Boolean,Box,
Chamfer,Circle,Common,Compound,Compound2,Cone,CurveNet,CustomFeature(,Python,)Cut,Cylinder,Datum,
Ellipse,Ellipsoid,Extrusion,Face(,Maker(,Bullseye,Cheese,Extrusion,Public,Simple,))Feature(,Ext,
GeometrySet,Python,)Fillet(,Base,)Fuse,Geom(ArcOf(Circle,Conic,Ellipse,Hyperbola,Parabola,)BSpline(
Curve,Surface,)Bezier(Curve,Surface,)BoundedCurve,Circle,Cone,Conic,Curve,Cylinder,Ellipse,
Hyperbola,Line(,Segment,)Offset(Curve,Surface,)Parabola,Plane,PlateSurface,Point,Sphere,Surface(,
OfExtrusion,OfRevolution,)Toroid,Trimmed(Curve,Surface,))Geom2d(ArcOf(Circle,Conic,Ellipse,
Hyperbola,Parabola,)BSplineCurve,BezierCurve,Circle,Conic,Curve,Ellipse,Hyperbola,Line(,Segment,)
OffsetCurve,Parabola,Point,TrimmedCurve,)Geometry(,BoolExtension,DoubleExtension,Extension,
IntExtension,MigrationExtension,PersistenceExtension,StringExtension,)Geometry2d,Helix,Import(Brep,
Iges,Step,)Line,Loft,Mirroring,Multi(Common,Fuse,)Offset,Offset2D,Part2DObject(,Python,)Plane,
Polygon,Primitive,Prism(,Extension,)Property(FilletEdges,GeometryList,PartShape,ShapeHistory,)
Refine,RegularPolygon,Reverse,Revolution,RuledSurface,Section,Sphere,Spiral,Spline,Sweep,Thickness,
TopoShape,Torus,Vertex,Wedge,)Design(::(Additive(Box,Cone,Cylinder,Ellipsoid,Helix,Loft,Pipe,Prism,
Sphere,Torus,Wedge,)Body,Boolean,Box,Chamfer,Cone,CoordinateSystem,Cylinder,Draft,DressUp,Ellipsoid,
Feature(,AddSub(,Python,)AdditivePython,Base,Extrude,Primitive,Python,SubtractivePython,)Fillet,
Groove,Helix,Hole,Line,LinearPattern,Loft,Mirrored,MultiTransform,Pad,Pipe,Plane,Pocket,Point,
PolarPattern,Prism,ProfileBased,Revolution,Scaled,ShapeBinder,Solid,Sphere,SubShapeBinder(,Python,)
Subtractive(Box,Cone,Cylinder,Ellipsoid,Helix,Loft,Pipe,Prism,Sphere,Torus,Wedge,)Thickness,Torus,
Transformed,Wedge,)Gui::(ViewProvider(,AddSub,Base,Body,Boolean,Chamfer,Datum(,CoordinateSystem,
Line,Plane,Point,)Draft,DressUp,Fillet,Groove,Helix,Hole,LinearPattern,Loft,Mirrored,MultiTransform,
Pad,Pipe,Pocket,PolarPattern,Primitive,Python,Revolution,Scaled,ShapeBinder,SketchBased,
SubShapeBinder(,Python,)Thickness,Transformed,)Workbench,))Gui::(PropertyEnumAttacherItem,View(
Provider(AttachExtension(,Python,)Boolean,Box,Chamfer,CircleParametric,Compound,ConeParametric,
CurveNet,Custom(,Python,)CylinderParametric,EllipseParametric,Ellipsoid,Extrusion,Face,Fillet,
HelixParametric,Import,LineParametric,Loft,Mirror,Multi(Common,Fuse,)Offset,Offset2D,Part(,Ext,)
PlaneParametric,PointParametric,Primitive,Prism,Python,Refine,RegularPolygon,Reverse,Revolution,
RuledSurface,SphereParametric,SpiralParametric,Spline(,Extension(,Python,))Sweep,Thickness,
TorusParametric,Wedge,)Provider2DObject(,Grid,Python,))Workbench,))Path(::(Area,Command,Feature(,
Area(,Python,View(,Python,))Compound(,Python,)Python,Shape(,Python,))PropertyPath,Toolpath,Voronoi(,
Cell,Edge,Vertex,))Gui::ViewProvider(Area(,Python,View(,Python,))Path(,Compound(,Python,)Python,
Shape,))SelectionObserver,Simulator::PathSim,)Points(::(Feature(,Custom,Python,)Property(
CurvatureList,GreyValue(,List,)NormalList,PointKernel,)Structured(,Custom,))Gui::(ViewProvider(
Points,Python,Scattered,Structured,)Workbench,))Property(AngleItem,BoolItem,ColorItem,DirectionItem,
EnumItem,FileItem,Float(ConstraintItem,Item,ListItem,)FontItem,Integer(ConstraintItem,Item,
ListItem,)Item,Link(Item,ListItem,)Material(Item,ListItem,)MatrixItem,PathItem,PlacementItem,
PositionItem,PrecisionItem,RotationItem,SeparatorItem,String(Item,ListItem,)TransientFileItem,Unit(
ConstraintItem,Item,)Vector(DistanceItem,Item,ListItem,))Raytracing(::(Lux(Feature,Project,)Ray(
Feature,Project,Segment,))Gui::(ViewProvider(Lux,Povray,)Workbench,))
ReverseEngineeringGui::Workbench,RevitNavigationStyle,Robot(::(Edge2TracObject,PropertyTrajectory,
RobotObject,Robot6Axis,Trajectory(,Compound,DressUpObject,Object,)Waypoint,)Gui::(ViewProvider(
Edge2TracObject,RobotObject,Trajectory(,Compound,DressUp,))Workbench,))
SIM::Coin3D::Quarter::Quarter,SMDS_Mesh(Cell,Edge,Face,Volume,)SMESH_Block,Sandbox(
::DocumentProtector,::SandboxObject,Gui::Workbench,)SelectionObject,Sketcher(::(Constraint,
ExternalGeometry(Extension,Facade,)GeometryFacade,PropertyConstraintList,Sketch(,GeometryExtension,
Object(,Python,SF,))SolverGeometryExtension,)Gui::(PropertyConstraintListItem,ViewProvider(Custom(,
Python,)Python,Sketch(,GeometryExtension,))Workbench,))So(DB,FCDB,Interaction,NodeKit,)Spreadsheet(
::(Property(ColumnWidths,RowHeights,Sheet,SpreadsheetQuantity,)Sheet(,Python,))Gui::(SheetView,
ViewProviderSheet(,Python,)Workbench,))StartGui::Workbench,Surface(::(Cut,Extend,FeatureBlendCurve,
Filling,GeomFillSurface,Sections,Sewing,)Gui::(ViewProvider(BlendCurve,Extend,Filling,
GeomFillSurface,Sections,)Workbench,))TechDraw(::(CenterLine,Cosmetic(Edge,Extension(,Python,)
Vertex,)Draw(ComplexSection(,Python,)GeomHatch,Hatch,LeaderLine(,Python,)Page(,Python,)
ParametricTemplate,ProjGroup(,Item,)RichAnno(,Python,)SVGTemplate,Template(,Python,)Tile(,Python,
Weld(,Python,))View(,Annotation,Arch,Balloon,Clip,Collection,Detail,DimExtent,Dimension,Draft,Image,
Part(,Python,)Python,Section(,Python,)Spreadsheet,Symbol(,Python,))WeldSymbol(,Python,))
FeatureProjection,GeomFormat,LandmarkDimension,Property(CenterLineList,Cosmetic(EdgeList,
VertexList,)GeomFormatList,))Gui::(MDIViewPage,ViewProvider(Annotation,Arch,Balloon,
CosmeticExtension,Dimension,Draft,DrawingView(,Extension,)GeomHatch,Hatch,Image,Leader,Page(,
Extension,)ProjGroup(,Item,)RichAnno,Spreadsheet,Symbol,Template(,Extension,)Tile,View(Clip,Part,
Section,)Weld,)Workbench,))TinkerCADNavigationStyle,TouchpadNavigationStyle,UserNavigationStyle,
ViewProviderIndex,WebGui::(BrowserView,Workbench,)WorkflowManager,void(Action(Box,Label,)
App::Extension,BaseClass,BelongToGeom,DocumentProtector,DownloadItem,E57XmlParser,
ExpressionCompleter,Gui::SoFCDB,LineGroup,LyingOnGeom,PATLineSpec,
SIM::Coin3D::Quarter::SoQTQuarterAdaptor,SMESH_Block,Type,View3DInventorViewer,WorkflowManager,)"

def shipped : TypeTable := ofIds shippedIds

end BindingStubs.TypeTable
